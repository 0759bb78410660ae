import PointForce.Proofs.Host.Lifetime
import PointForce.Proofs.Text.Boundary

-- The message that a host can ask for always belongs to the latest call that could fail. The host
-- gets as many whole characters of it as fit.

namespace PointForce

namespace Text

theorem fitting_of_byteLength_le : ∀ {room : Nat} {cs : List Char}, byteLength cs ≤ room →
    fitting room cs = cs
  | _,    [],      _ => by simp [fitting]
  | room, c :: cs, h => by
    rw [byteLength] at h
    rw [fitting, if_pos (Nat.le_of_add_right_le h), fitting_of_byteLength_le (by omega)]

-- The first character of a text takes one byte, so there is room for it wherever there is any.
def Plain (text : String) : Prop :=
  text.toList.head?.map Char.utf8Size = some 1

instance (text : String) : Decidable (Plain text) :=
  inferInstanceAs (Decidable (_ = _))

namespace Plain

variable {text : String}

theorem append (h : Plain text) (more : String) : Plain (text ++ more) := by
  rw [Plain, Option.map_eq_some_iff] at *
  have ⟨c, head, size⟩ := h
  refine ⟨c, ?_, size⟩
  rw [String.toList_append, List.head?_append, head, Option.some_or]

theorem exists_cons (h : Plain text) : ∃ c cs, text.toList = c :: cs ∧ c.utf8Size = 1 := by
  have ⟨c, head, size⟩ := Option.map_eq_some_iff.mp h
  have ⟨cs, chars⟩ := List.head?_eq_some_iff.mp head
  exact ⟨c, cs, chars, size⟩

theorem byteLength_pos (h : Plain text) : 0 < byteLength text.toList := by
  have ⟨c, cs, chars, size⟩ := h.exists_cons
  rw [chars, byteLength, size]
  exact Nat.add_pos_left Nat.one_pos _

theorem fitting_ne_nil (h : Plain text) {room : Nat} (pos : 0 < room) :
    fitting room text.toList ≠ [] := by
  have ⟨c, cs, chars, size⟩ := h.exists_cons
  rw [chars, fitting, if_pos (size ▸ pos)]
  exact List.cons_ne_nil _ _

end Plain
end Text

-- The equations of `describe` compare whole texts, so its definition is unfolded in their place.
theorem ErrorKind.plain_describe (detail : String) (kind : ErrorKind) :
    Text.Plain (kind.describe detail) := by
  delta describe
  cases kind <;> dsimp only
  case missingBody | nullPointer     => exact .append (.append (by decide +kernel) _) _
  case invalidConfig | parse | shape => exact .append (by decide +kernel) _

theorem Error.plain_message (e : Error) : Text.Plain e.message := by
  cases e
  case parse l => exact (ErrorKind.plain_describe ..).append l.place.message
  all_goals exact ErrorKind.plain_describe ..

namespace Host

def latest? (log : List Exchange) : Option Exchange :=
  (log.filter (·.call.fallible)).getLast?

theorem latest?_concat_of_fallible {x : Exchange} (h : x.call.fallible) (log : List Exchange) :
    latest? (log ++ [x]) = some x := by
  simp [latest?, h]

theorem latest?_concat_of_infallible {x : Exchange} (h : x.call.fallible = false)
    (log : List Exchange) : latest? (log ++ [x]) = latest? log := by
  simp [latest?, h]

namespace Session

variable {s s' : Session} {c : Call} {r : Reply} {slot : String} {log : List Exchange}

structure Reports (s : Session) (c : Call) (s' : Session) (r : Reply) : Prop where
  kept : s'.lastError = s.fault? c
  told : r.Succeeded ↔ s.fault? c = none

theorem Reports.of_none (sound : s.fault? c = none) (cleared : s'.lastError = none)
    (succeeded : r.Succeeded) : Reports s c s' r where
  kept := cleared.trans sound.symm
  told := iff_of_true succeeded sound

theorem Reports.of_some {e : Error} (fault : s.fault? c = some e) (set_ : s'.lastError = some e)
    (failed : ¬ r.Succeeded) : Reports s c s' r where
  kept := set_.trans fault.symm
  told := iff_of_false failed (fault ▸ Option.some_ne_none e)

theorem Exit.lastError_eq (exit : Exit s c s' r) (h : c.fallible = false) :
    s'.lastError = s.lastError := by
  cases exit
  case told | freed                    => rfl
  case refused failed fault fallible _ => cases h.symm.trans fallible
  all_goals cases h

theorem Exit.reports (exit : Exit s c s' r) (h : c.fallible) : Reports s c s' r := by
  cases exit
  case told infallible _ _ => cases h.symm.trans infallible
  case freed               => cases h
  case refused failed fault _ _ =>
    exact .of_some fault rfl (Reply.not_succeeded_handBack failed c)
  case created ok          => exact .of_none (congrArg errorOf ok) rfl rfl
  case notCreated fault    => exact .of_some (congrArg errorOf fault) rfl nofun
  case placed held ok =>
    exact .of_none ((faultAt_of_some held _).trans (congrArg errorOf ok)) rfl rfl
  case stored held ok =>
    exact .of_none ((faultAt_of_some held _).trans (congrArg errorOf ok)) rfl rfl
  case restarted held      => exact .of_none (faultAt_of_some held _) rfl rfl
  case started held valid =>
    have sound := congrArg (Option.map Error.invalidConfig) (Config.fault?_eq_none_iff.mpr valid)
    exact .of_none ((faultAt_of_some held _).trans sound) rfl rfl
  case notStarted held invalid =>
    have fault := congrArg (Option.map Error.invalidConfig) invalid
    exact .of_some ((faultAt_of_some held _).trans fault) rfl nofun
  case built held sound _ => exact .of_none ((faultAt_of_some held _).trans sound) rfl rfl
  case notHandedOut held _ _ fault failed =>
    exact .of_some ((faultAt_of_some held _).trans fault) rfl (Reply.not_succeeded_rows failed _)
  case bounded held complete _ =>
    exact .of_none ((faultAt_of_some held _).trans (if_pos complete)) rfl rfl
  case forced held sound => exact .of_none ((faultAt_of_some held _).trans sound) rfl rfl

structure UpToDate (s : Session) (log : List Exchange) : Prop where
  lastError : s.lastError = (latest? log).bind fun x => x.before.fault? x.call
  told      : ∀ x, latest? log = some x → (x.reply.Succeeded ↔ x.before.fault? x.call = none)

theorem ask_lastError (s : Session) (room : Nat) :
    s.ask (.lastError (some room)) =
      some (s, .text (Text.fitting (min room 0x7fffffff) s.errorMessage)) := by
  simp only [ask, call, lastErrorText]
  rfl

theorem errorMessage_of_none (h : s.lastError = none) : s.errorMessage = [] := by
  rw [errorMessage, h, Option.elim_none, String.toList_empty]

theorem errorMessage_of_some {e : Error} (h : s.lastError = some e) :
    s.errorMessage = e.message.toList := by
  rw [errorMessage, h, Option.elim_some]

theorem UpToDate.start : start.UpToDate [] where
  lastError   := rfl
  told _ none := by cases none

theorem UpToDate.concat (h : s.UpToDate log) (exit : Exit s c s' r) :
    s'.UpToDate (log ++ [⟨s, c, r⟩]) := by
  cases kind : c.fallible
  case false =>
    have latest := latest?_concat_of_infallible (x := ⟨s, c, r⟩) kind log
    exact ⟨by rw [exit.lastError_eq kind, latest, h.lastError], latest ▸ h.told⟩
  case true =>
    have latest := latest?_concat_of_fallible (x := ⟨s, c, r⟩) kind log
    have reports := exit.reports kind
    refine ⟨by rw [latest, reports.kept]; rfl, fun x eq => ?_⟩
    cases latest.symm.trans eq
    exact reports.told

theorem UpToDate.message_cases (h : s.UpToDate log) :
    (s.errorMessage = [] ∧ ∀ x, latest? log = some x → x.reply.Succeeded) ∨
    ∃ x e, latest? log = some x ∧ ¬ x.reply.Succeeded ∧ x.before.fault? x.call = some e ∧
      s.errorMessage = e.message.toList := by
  cases latest : latest? log
  case none =>
    have none : s.lastError = none := by rw [h.lastError, latest]; rfl
    exact .inl ⟨errorMessage_of_none none, fun _ eq => by cases eq⟩
  case some x =>
    have lastError : s.lastError = x.before.fault? x.call := by rw [h.lastError, latest]; rfl
    have told := h.told x latest
    cases fault : x.before.fault? x.call
    case none =>
      refine .inl ⟨errorMessage_of_none (lastError.trans fault), ?_⟩
      rintro _ ⟨⟩
      exact told.mpr fault
    case some e =>
      have failed : ¬ x.reply.Succeeded := fun ok =>
        Option.some_ne_none e (fault.symm.trans (told.mp ok))
      exact .inr ⟨x, e, rfl, failed, fault, errorMessage_of_some (lastError.trans fault)⟩

theorem describes_of_run (calls : List Call) :
    ∃ s log, start.run calls = some (s, log) ∧
      (∀ room, Text.byteLength s.errorMessage ≤ room →
        ∃ text, s.ask (.lastError (some room)) = some (s, .text text) ∧
          (text = [] ↔ ∀ x, latest? log = some x → x.reply.Succeeded) ∧
          ∀ x, latest? log = some x → ¬ x.reply.Succeeded →
            ∃ e, x.before.fault? x.call = some e ∧
              (Text.byteLength e.message.toList ≤ 0x7fffffff → text = e.message.toList)) ∧
      ∀ c, c.fallible = false →
        ∃ s' r, s.ask c = some (s', r) ∧ s'.errorMessage = s.errorMessage := by
  have ⟨s, log, ran, sound, upToDate⟩ := Sound.start.exists_run (P := UpToDate)
    (Q := fun _ => True) (fun _ _ h exit => h.concat exit) (fun c (_ : c ∈ calls) => trivial)
    .start
  refine ⟨s, log, ran, fun room large => ⟨_, s.ask_lastError room, ?empty, ?error⟩,
    fun c infallible => ?keep⟩
  case empty =>
    obtain ⟨message, succeeded⟩ | ⟨x, e, latest, failed, _, message⟩ := upToDate.message_cases
    · exact iff_of_true (by rw [message, Text.fitting]) succeeded
    · rw [message] at large ⊢
      have pos : 0 < min room 0x7fffffff :=
        Nat.lt_min.mpr ⟨Nat.lt_of_lt_of_le e.plain_message.byteLength_pos large, by decide⟩
      exact iff_of_false (e.plain_message.fitting_ne_nil pos) fun all => failed (all x latest)
  case error =>
    intro x latest failed
    obtain ⟨_, succeeded⟩ | ⟨_, e, latest', _, fault, message⟩ := upToDate.message_cases
    · exact (failed (succeeded x latest)).elim
    · cases latest.symm.trans latest'
      rw [message] at large ⊢
      exact ⟨e, fault, fun fits => Text.fitting_of_byteLength_le (Nat.le_min.mpr ⟨large, fits⟩)⟩
  case keep =>
    obtain ⟨s', r, asked⟩ := sound.exists_ask c
    have same := (exit_of_ask asked).lastError_eq infallible
    exact ⟨s', r, asked, by rw [errorMessage, same, errorMessage]⟩

example :
    (start.run [.init "a", .free "a", .lastError (some 64),
        .create "a" (some []) (some [0x7b, 0x7d]), .lastError (some 64)]).map
          (fun (_, log) => log.map Exchange.reply) =
      some [.status .error, .freed, .text "null pointer passed for `handle`".toList, .created true,
        .text []] := by
  decide +kernel

theorem excerpt_of_lastError (s : Session) (room : Nat) :
    ∃ written, s.ask (.lastError (some room)) = some (s, .text written) ∧
      Text.Excerpt s.errorMessage (min room 0x7fffffff) written :=
  ⟨_, s.ask_lastError room, Text.excerpt_fitting ..⟩

end Session
end Host
end PointForce
