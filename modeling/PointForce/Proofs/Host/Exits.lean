import PointForce.Proofs.Host.Calls

-- How the calls of a host end. A call that can fail looks for its faults in a fixed order; all that
-- it can do besides is listed once, as the exits of the call.

namespace PointForce.Host

deriving instance DecidableEq for RowArrays, BoundArrays, Reply

namespace Call

def slot? : Call → Option String
  | create slot .. | free slot | setPositions slot .. | init slot | reinit slot | isActive slot
  | dimension slot | displacement slot | buildRows slot .. | bounds slot _ | store slot ..
  | force slot .. => some slot
  | lastError _   => none

def fallible : Call → Bool
  | free _ | isActive _ | dimension _ | displacement _ | lastError _ => false
  | _                                                                => true

def renews : Call → Bool
  | create .. | free _ => true
  | _                  => false

def handBack (s : Status) : Call → Reply
  | create ..           => .created false
  | buildRows _ _ _ out => .rows s out
  | bounds _ out        => .bounds s out
  | force _ _ out       => .force s out
  | _                   => .status s

end Call

theorem Status.error_ne_ok : error ≠ ok :=
  nofun

theorem Status.bufferTooSmall_ne_ok : bufferTooSmall ≠ ok :=
  nofun

namespace Reply

def code? : Reply → Option Nat
  | status s | rows s _ | bounds s _ | force s _ => some s.code
  | _                                            => none

def Succeeded : Reply → Prop
  | created success => success
  | r               => r.code? = some 0

end Reply

namespace RowArrays

def counted (out : RowArrays) (h : Handle) : RowArrays :=
  { out with count := some h.triplets.length, rowCount := some h.actuator.state.rowCount }

def Lacking (out : RowArrays) : Prop :=
  out.rows = none ∨ out.dofs = none ∨ out.values = none

instance (out : RowArrays) : Decidable out.Lacking :=
  inferInstanceAs (Decidable (_ ∨ _ ∨ _))

theorem write?_eq_none_iff {out : RowArrays} {ts : List (Triplet Float)} :
    out.write? ts = none ↔ ts.length ≠ 0 ∧ out.Lacking := by
  obtain ⟨rows, dofs, values, _, _⟩ := out
  cases rows <;> cases dofs <;> cases values <;> simp [write?, Lacking]

end RowArrays

def errorOf {β : Type} : Except Error β → Option Error
  | .ok _    => none
  | .error e => some e

namespace Handle

variable (h : Handle)

def rowsFault? (firstRow capacity : Nat) (out : RowArrays) : Option Error :=
  let needed := (h.build firstRow).triplets.length
  if out.count = none ∨ out.rowCount = none then some (.nullPointer .rowCounters)
  else if capacity < needed                 then some (.shape (.rowRoom capacity needed))
  else if needed ≠ 0 ∧ out.Lacking          then some (.nullPointer .rowArrays)
  else none

def forceFault? (capacity : Nat) (out : Option (List Float)) : Option Error :=
  let needed := h.actuator.force.length
  if capacity < needed             then some (.shape (.forceRoom capacity needed))
  else if needed ≠ 0 ∧ out = none  then some (.nullPointer .force)
  else none

end Handle

namespace Session

variable {s s' : Session} {c : Call} {r : Reply}

def faultAt (s : Session) (slot : String) (f : Handle → Option Error) : Option Error :=
  match s.handle? slot with
  | none   => some (.nullPointer .handle)
  | some h => f h

def fault? (s : Session) : Call → Option Error
  | .create _ name config               => errorOf (Handle.create name config)
  | .setPositions slot coords points    =>
    s.faultAt slot fun h => errorOf (h.setPositions coords points)
  | .init slot                          =>
    s.faultAt slot fun h => h.actuator.config.fault?.map .invalidConfig
  | .reinit slot                        => s.faultAt slot fun _ => none
  | .buildRows slot firstRow room out   => s.faultAt slot (·.rowsFault? firstRow room out)
  | .bounds slot out                    =>
    s.faultAt slot fun _ => if out.complete then none else some (.nullPointer .bounds)
  | .store slot l nl d nd               => s.faultAt slot fun h => errorOf (h.store l nl d nd)
  | .force slot capacity out            => s.faultAt slot (·.forceFault? capacity out)
  | .free _ | .isActive _ | .dimension _ | .displacement _ | .lastError _ => none

inductive Exit (s : Session) : Call → Session → Reply → Prop
  -- Nothing is changed, not even the error.
  | told {c : Call} {r : Reply} (infallible : c.fallible = false) (keeps : c.renews = false)
      (plain : r.code? = none) :
    Exit s c s r
  | freed {slot : String} :
    Exit s (.free slot) (s.put slot none) .freed
  -- Only the error is changed.
  | refused {c : Call} {e : Error} {status : Status} (fault : s.fault? c = some e)
      (failed : status ≠ .ok) (fallible : c.fallible) (keeps : c.renews = false) :
    Exit s c (s.fail e) (c.handBack status)
  | created {slot : String} {name config : Option (List UInt8)} {h : Handle}
      (ok : Handle.create name config = .ok h) :
    Exit s (.create slot name config) (s.keep slot h) (.created true)
  | notCreated {slot : String} {name config : Option (List UInt8)} {e : Error}
      (fault : Handle.create name config = .error e) :
    Exit s (.create slot name config) ((s.put slot none).fail e) (.created false)
  | placed {slot : String} {coords : Option (List Float)} {points : Nat} {h : Handle}
      {moved : Logged Handle} (held : s.handle? slot = some h)
      (ok : h.setPositions coords points = .ok moved) :
    Exit s (.setPositions slot coords points) (s.keep slot moved.value) (.status .ok)
  | started {slot : String} {h : Handle} (held : s.handle? slot = some h)
      (valid : h.actuator.config.Valid) :
    Exit s (.init slot) (s.keep slot h.init.2.value) (.status .ok)
  | notStarted {slot : String} {h : Handle} {fault : ConfigFault Float}
      (held : s.handle? slot = some h) (invalid : h.actuator.config.fault? = some fault) :
    Exit s (.init slot) ((s.put slot (some h.init.2.value)).fail (.invalidConfig fault))
      (.status .error)
  | restarted {slot : String} {h : Handle} (held : s.handle? slot = some h) :
    Exit s (.reinit slot) (s.keep slot h.reinit.value) (.status .ok)
  | stored {slot : String} {l d : Option (List Float)} {nl nd : Nat} {h : Handle}
      {after : Logged Handle} (held : s.handle? slot = some h)
      (ok : h.store l nl d nd = .ok after) :
    Exit s (.store slot l nl d nd) (s.keep slot after.value) (.status .ok)
  | built {slot : String} {firstRow capacity : Nat} {out written : RowArrays} {h : Handle}
      (held : s.handle? slot = some h) (sound : h.rowsFault? firstRow capacity out = none)
      (write : (out.counted (h.build firstRow)).write? (h.build firstRow).triplets = some written) :
    Exit s (.buildRows slot firstRow capacity out) (s.keep slot (h.build firstRow))
      (.rows .ok written)
  -- The rows are written all the same, and counted.
  | notHandedOut {slot : String} {firstRow capacity : Nat} {out : RowArrays} {h : Handle}
      {e : Error} {status : Status} (held : s.handle? slot = some h) (count : out.count ≠ none)
      (rowCount : out.rowCount ≠ none) (fault : h.rowsFault? firstRow capacity out = some e)
      (failed : status ≠ .ok) :
    Exit s (.buildRows slot firstRow capacity out) ((s.put slot (some (h.build firstRow))).fail e)
      (.rows status (out.counted (h.build firstRow)))
  | bounded {slot : String} {out written : BoundArrays} {h : Handle}
      (held : s.handle? slot = some h) (complete : out.complete)
      (write : out.write? h.actuator.dimension h.actuator.bounds = some written) :
    Exit s (.bounds slot out) s.succeed (.bounds .ok written)
  | forced {slot : String} {capacity : Nat} {out : Option (List Float)} {h : Handle}
      (held : s.handle? slot = some h) (sound : h.forceFault? capacity out = none) :
    Exit s (.force slot capacity out) s.succeed
      (.force .ok (out.map (Buffer.overwrite h.actuator.force)))

section

variable {slot : String} {h : Handle}

theorem faultAt_of_none (missing : s.handle? slot = none) (f : Handle → Option Error) :
    s.faultAt slot f = some (.nullPointer .handle) := by
  rw [faultAt, missing]

theorem faultAt_of_some (held : s.handle? slot = some h) (f : Handle → Option Error) :
    s.faultAt slot f = f h := by
  rw [faultAt, held]

end

theorem change_cases (s : Session) (slot : String) (f : Handle → Except Error (Logged Handle)) :
    (∃ e, s.faultAt slot (fun h => errorOf (f h)) = some e ∧
      (s.change slot f).value = (s.fail e, .status .error)) ∨
    (∃ h changed, s.handle? slot = some h ∧ f h = .ok changed ∧
      (s.change slot f).value = (s.keep slot changed.value, .status .ok)) := by
  rw [change]
  cases held : s.handle? slot
  case none   => exact .inl ⟨_, faultAt_of_none held _, rfl⟩
  case some h =>
    cases result : f h
    case error e    =>
      have fault := (faultAt_of_some held fun h => errorOf (f h)).trans (congrArg errorOf result)
      exact .inl ⟨e, fault, by simp only [result]; rfl⟩
    case ok changed =>
      exact .inr ⟨h, changed, rfl, result, by simp only [result]; rfl⟩

theorem exit_create (s : Session) (slot : String) (name config : Option (List UInt8)) :
    Exit s (.create slot name config) (s.create slot name config).value.1
      (s.create slot name config).value.2 := by
  rw [create]
  cases made : Handle.create name config
  case ok    => exact .created made
  case error => exact .notCreated made

theorem exit_init (s : Session) (slot : String) :
    Exit s (.init slot) (s.init slot).value.1 (s.init slot).value.2 := by
  rw [init]
  cases held : s.handle? slot
  case none   => exact .refused (faultAt_of_none held _) Status.error_ne_ok rfl rfl
  case some h =>
    cases hf : h.actuator.config.fault?
    case none =>
      have valid := Config.fault?_eq_none_iff.mp hf
      obtain ⟨ok, _⟩ := Actuator.init_of_valid valid (h.cloud.map PointCloud.body)
      have result : h.init = (.ok (), h.init.2) := Prod.ext ok rfl
      simp only
      rw [result]
      exact .started held valid
    case some fault =>
      have result : h.init = (.error fault, h.init.2) := by
        rw [Handle.init, Actuator.init_of_fault hf]
      simp only
      rw [result]
      exact .notStarted held hf

theorem exit_buildRows (s : Session) (slot : String) (firstRow capacity : Nat) (out : RowArrays) :
    Exit s (.buildRows slot firstRow capacity out)
      (s.buildRows slot firstRow capacity out).value.1
      (s.buildRows slot firstRow capacity out).value.2 := by
  cases held : s.handle? slot
  case none =>
    simp only [buildRows, held]
    exact .refused (faultAt_of_none held _) Status.error_ne_ok rfl rfl
  case some h =>
    by_cases counters : out.count = none ∨ out.rowCount = none
    case pos =>
      have fault := (faultAt_of_some held (·.rowsFault? firstRow capacity out)).trans
        (if_pos counters)
      simp only [buildRows, held]
      split
      case h_1 eq => cases eq
      case h_2 count rowCount => simp [count, rowCount] at counters
      case h_3 => exact .refused fault Status.error_ne_ok rfl rfl
    case neg =>
      obtain ⟨count, rowCount⟩ := not_or.mp counters
      obtain ⟨_, hc⟩ := Option.ne_none_iff_exists'.mp count
      obtain ⟨_, hr⟩ := Option.ne_none_iff_exists'.mp rowCount
      simp only [buildRows, held, hc, hr]
      by_cases small : capacity < (h.build firstRow).triplets.length
      case pos =>
        rw [if_pos small]
        exact .notHandedOut held count rowCount ((if_neg counters).trans (if_pos small))
          Status.bufferTooSmall_ne_ok
      case neg =>
        rw [if_neg small]
        split
        case h_1 missing =>
          obtain ⟨needed, lacking⟩ := RowArrays.write?_eq_none_iff.mp missing
          exact .notHandedOut held count rowCount
            ((if_neg counters).trans ((if_neg small).trans (if_pos ⟨needed, lacking⟩)))
            Status.error_ne_ok
        case h_2 written write =>
          have ample : ¬((h.build firstRow).triplets.length ≠ 0 ∧ out.Lacking) := fun lacks =>
            have missing : (out.counted (h.build firstRow)).write? _ = none :=
              RowArrays.write?_eq_none_iff.mpr lacks
            Option.some_ne_none _ (write.symm.trans missing)
          exact .built held ((if_neg counters).trans ((if_neg small).trans (if_neg ample))) write

theorem exit_force (s : Session) (slot : String) (capacity : Nat) (out : Option (List Float)) :
    Exit s (.force slot capacity out) (s.force slot capacity out).value.1
      (s.force slot capacity out).value.2 := by
  cases held : s.handle? slot
  case none =>
    simp only [force, held]
    exact .refused (faultAt_of_none held _) Status.error_ne_ok rfl rfl
  case some h =>
    have faultAt := faultAt_of_some held (·.forceFault? capacity out)
    simp only [force, held]
    by_cases small : capacity < h.actuator.force.length
    case pos =>
      rw [if_pos small]
      exact .refused (faultAt.trans (if_pos small)) Status.bufferTooSmall_ne_ok rfl rfl
    case neg =>
      rw [if_neg small]
      by_cases empty : h.actuator.force = []
      case pos =>
        have sound : h.forceFault? capacity out = none := by
          simp [Handle.forceFault?, empty]
        have same : out.map (Buffer.overwrite h.actuator.force) = out := by
          rw [empty]
          cases out <;> rfl
        have exit := Exit.forced held sound
        rw [same] at exit
        rwa [if_pos (List.isEmpty_iff.mpr empty)]
      case neg =>
        have needed : h.actuator.force.length ≠ 0 := mt List.length_eq_zero_iff.mp empty
        rw [if_neg (mt List.isEmpty_iff.mp empty)]
        cases out
        case none =>
          have missing : h.forceFault? capacity none = some (.nullPointer .force) :=
            (if_neg small).trans (if_pos ⟨needed, rfl⟩)
          exact .refused (faultAt.trans missing) Status.error_ne_ok rfl rfl
        case some cells =>
          have sound : h.forceFault? capacity (some cells) = none :=
            (if_neg small).trans (if_neg fun lacks => Option.some_ne_none cells lacks.right)
          exact .forced held sound

theorem exit_bounds {slot : String} {out : BoundArrays} {step : Step}
    (h : s.bounds slot out = some step) :
    Exit s (.bounds slot out) step.value.1 step.value.2 := by
  rw [bounds] at h
  cases held : s.handle? slot <;> rw [held] at h <;> simp only at h
  case none =>
    cases h
    exact .refused (faultAt_of_none held _) Status.error_ne_ok rfl rfl
  case some handle =>
    split at h
    case isTrue complete =>
      obtain ⟨written, write, eq⟩ := Option.map_eq_some_iff.mp h
      cases eq
      exact .bounded held complete write
    case isFalse incomplete =>
      cases h
      exact .refused ((faultAt_of_some held _).trans (if_neg incomplete)) Status.error_ne_ok rfl rfl

theorem exit_of_call {step : Step} (h : s.call c = some step) :
    Exit s c step.value.1 step.value.2 := by
  cases c
  case create =>
    cases h
    exact s.exit_create ..
  case setPositions slot coords points =>
    cases h
    obtain ⟨e, fault, eq⟩ | ⟨h, moved, held, ok, eq⟩ :=
      s.change_cases slot (·.setPositions coords points)
    · simp only [eq]; exact .refused fault Status.error_ne_ok rfl rfl
    · simp only [eq]; exact .placed held ok
  case store slot l nl d nd =>
    cases h
    obtain ⟨e, fault, eq⟩ | ⟨h, after, held, ok, eq⟩ := s.change_cases slot (·.store l nl d nd)
    · simp only [eq]; exact .refused fault Status.error_ne_ok rfl rfl
    · simp only [eq]; exact .stored held ok
  case reinit slot =>
    cases h
    obtain ⟨e, fault, eq⟩ | ⟨h, after, held, ok, eq⟩ := s.change_cases slot fun h => .ok h.reinit
    · simp only [eq]; exact .refused fault Status.error_ne_ok rfl rfl
    · cases ok; simp only [eq]; exact .restarted held
  case init      => cases h; exact s.exit_init _
  case buildRows => cases h; exact s.exit_buildRows ..
  case bounds    => exact exit_bounds h
  case force     => cases h; exact s.exit_force ..
  case free => cases h; exact .freed
  all_goals cases h; exact .told rfl rfl rfl

theorem exit_of_ask (h : s.ask c = some (s', r)) : Exit s c s' r := by
  have ⟨step, call, eq⟩ := Option.map_eq_some_iff.mp h
  have exit := exit_of_call call
  rwa [eq] at exit

end Session
end PointForce.Host
