import PointForce.Host.Handle

-- The interface to simulators that know only numbers, arrays and addresses.

namespace PointForce.Host

inductive Status
  | ok
  | error
  | bufferTooSmall
  deriving DecidableEq, Repr

def Status.code : Status → Nat
  | ok             => 0
  | error          => 1
  | bufferTooSmall => 2

-- A slot without a handle is a null pointer.
structure Session where
  handle?   : String → Option Handle
  lastError : Option Error

inductive Call
  | create (slot : String) (name config : Option (List UInt8))
  | free (slot : String)
  | setPositions (slot : String) (coords : Option (List Float)) (points : Nat)
  | init (slot : String)
  | reinit (slot : String)
  | isActive (slot : String)
  | dimension (slot : String)
  | displacement (slot : String)
  | buildRows (slot : String) (firstRow capacity : Nat) (out : RowArrays)
  | bounds (slot : String) (out : BoundArrays)
  | store (slot : String) (multipliers : Option (List Float)) (multiplierCount : Nat)
      (deltas : Option (List Float)) (deltaCount : Nat)
  | force (slot : String) (capacity : Nat) (out : Option (List Float))
  | lastError (room : Option Nat)

inductive Reply
  | created (success : Bool)
  | freed
  | status (s : Status)
  | flag (b : Bool)
  | count (n : Nat)
  | number (x : Float)
  | rows (s : Status) (out : RowArrays)
  | bounds (s : Status) (out : BoundArrays)
  | force (s : Status) (out : Option (List Float))
  | text (written : List Char)

namespace Session

def start : Session where
  handle? _ := none
  lastError := none

def put (s : Session) (slot : String) (h : Option Handle) : Session :=
  { s with handle? := fun other => if other = slot then h else s.handle? other }

def succeed (s : Session) : Session :=
  { s with lastError := none }

def fail (s : Session) (e : Error) : Session :=
  { s with lastError := some e }

def errorMessage (s : Session) : List Char :=
  (s.lastError.elim "" Error.message).toList

abbrev Step :=
  Logged (Session × Reply)

def silent (s : Session) (r : Reply) : Step :=
  { value := (s, r) }

def create (s : Session) (slot : String) (name config : Option (List UInt8)) : Step :=
  match Handle.create name config with
  | .ok h    => silent (s.put slot (some h)).succeed (.created true)
  | .error e => silent ((s.put slot none).fail e) (.created false)

def change (s : Session) (slot : String) (f : Handle → Except Error (Logged Handle)) : Step :=
  match s.handle? slot with
  | none   => silent (s.fail (.nullPointer .handle)) (.status .error)
  | some h =>
    match f h with
    | .error e => silent (s.fail e) (.status .error)
    | .ok h    => h.map fun h => ((s.put slot (some h)).succeed, .status .ok)

-- A failing initialisation changes the handle all the same.
def init (s : Session) (slot : String) : Step :=
  match s.handle? slot with
  | none   => silent (s.fail (.nullPointer .handle)) (.status .error)
  | some h =>
    match h.init with
    | (.ok (), h)        => h.map fun h => ((s.put slot (some h)).succeed, .status .ok)
    | (.error fault, h)  =>
      h.map fun h => ((s.put slot (some h)).fail (.invalidConfig fault), .status .error)

-- The counters are written as soon as the rows are, so a host whose arrays are too small learns
-- what it needs.
def buildRows (s : Session) (slot : String) (firstRow capacity : Nat) (out : RowArrays) : Step :=
  match s.handle? slot, out.count, out.rowCount with
  | none,   _,      _      => silent (s.fail (.nullPointer .handle)) (.rows .error out)
  | some h, some _, some _ =>
    let h        := h.build firstRow
    let s        := s.put slot (some h)
    let triplets := h.triplets
    let counted  :=
      { out with count := some triplets.length, rowCount := some h.actuator.state.rowCount }
    if capacity < triplets.length then
      silent (s.fail (.shape (.rowRoom capacity triplets.length))) (.rows .bufferTooSmall counted)
    else
      match counted.write? triplets with
      | none     => silent (s.fail (.nullPointer .rowArrays)) (.rows .error counted)
      | some out => silent s.succeed (.rows .ok out)
  | some _, _,      _      => silent (s.fail (.nullPointer .rowCounters)) (.rows .error out)

def bounds (s : Session) (slot : String) (out : BoundArrays) : Option Step :=
  match s.handle? slot with
  | none   => some (silent (s.fail (.nullPointer .handle)) (.bounds .error out))
  | some h =>
    if out.complete then
      (out.write? h.actuator.dimension h.actuator.bounds).map fun out =>
        silent s.succeed (.bounds .ok out)
    else
      some (silent (s.fail (.nullPointer .bounds)) (.bounds .error out))

def force (s : Session) (slot : String) (capacity : Nat) (out : Option (List Float)) : Step :=
  match s.handle? slot with
  | none   => silent (s.fail (.nullPointer .handle)) (.force .error out)
  | some h =>
    let force := h.actuator.force
    if capacity < force.length then
      silent (s.fail (.shape (.forceRoom capacity force.length))) (.force .bufferTooSmall out)
    else if force.isEmpty then
      silent s.succeed (.force .ok out)
    else
      match out with
      | none       => silent (s.fail (.nullPointer .force)) (.force .error out)
      | some cells => silent s.succeed (.force .ok (some (Buffer.overwrite force cells)))

-- The number of bytes is returned in 32 bits with a sign.
def lastErrorText (s : Session) (room : Option Nat) : List Char :=
  match room with
  | none   => []
  | some n => Text.fitting (min n 0x7fffffff) s.errorMessage

-- No answer means that the host went out of range.
def call (s : Session) : Call → Option Step
  | .create slot name config            => s.create slot name config
  | .free slot                          => silent (s.put slot none) .freed
  | .setPositions slot coords points    => s.change slot (·.setPositions coords points)
  | .init slot                          => s.init slot
  | .reinit slot                        => s.change slot fun h => .ok h.reinit
  | .isActive slot                      =>
    silent s (.flag ((s.handle? slot).elim false (·.actuator.active)))
  | .dimension slot                     =>
    silent s (.count ((s.handle? slot).elim 0 (·.actuator.dimension)))
  | .displacement slot                  =>
    silent s (.number ((s.handle? slot).elim (0 / 0) (·.actuator.state.displacement)))
  | .buildRows slot firstRow room out   => s.buildRows slot firstRow room out
  | .bounds slot out                    => s.bounds slot out
  | .store slot l nl d nd               => s.change slot (·.store l nl d nd)
  | .force slot capacity out            => s.force slot capacity out
  | .lastError room                     => silent s (.text (s.lastErrorText room))

end Session
end PointForce.Host
