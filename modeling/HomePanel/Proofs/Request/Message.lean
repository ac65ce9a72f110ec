import HomePanel.Proofs.Json.Truthy
import HomePanel.Proofs.Request.Outcome

/-!
# The message of a failed request

A failed request reports a message read from its body (`failureMessage`). The body
*carries* a message (`ResponseBody.Carries`) when it is a non-empty string, as text or as
a JSON string, or when it is a JSON object whose `message` field is truthy: a string field
is carried as it is, any other value as its compact JSON. A body carries at most one
message, and every carried message is non-empty, since compact JSON never is.

The reported message is the carried one, and `Request failed` when the body carries none
(`failureMessage_eq_iff`); so the message of every request failure is non-empty.
-/

namespace HomePanel

/-- The message a failure body carries. -/
inductive ResponseBody.Carries : ResponseBody → String → Prop
  | text {s : String} : s ≠ "" → Carries (.text s) s
  | jsonString {s : String} : s ≠ "" → Carries (.json (.string s)) s
  | messageString {fields : List (String × Json)} {s : String} :
      (Json.object fields).get? "message" = some (.string s) → s ≠ "" →
      Carries (.json (.object fields)) s
  | messageValue {fields : List (String × Json)} {m : Json} :
      (Json.object fields).get? "message" = some m → m.truthy = true → (∀ s, m ≠ .string s) →
      Carries (.json (.object fields)) m.compact

/-! ## The `message` field -/

theorem truthyMessage?_eq_none_iff (m : Json) : truthyMessage? m = none ↔ m.truthy = false := by
  cases m with
  | bool b => cases b <;> simp [truthyMessage?, Json.truthy]
  | string s => by_cases hs : s = "" <;> simp [truthyMessage?, Json.truthy, hs, String.isEmpty_iff]
  | number n => cases hn : n.isZero <;> simp [truthyMessage?, Json.truthy, hn]
  | _ => simp [truthyMessage?, Json.truthy]

theorem truthyMessage?_string {s : String} (hs : s ≠ "") : truthyMessage? (.string s) = some s := by
  simp [truthyMessage?, hs, String.isEmpty_iff]

/-- A truthy field that is no string is reported as its compact JSON. -/
theorem truthyMessage?_of_truthy {m : Json} (hm : m.truthy = true) (hs : ∀ s, m ≠ .string s) :
    truthyMessage? m = some m.compact := by
  cases m with
  | null => simp [Json.truthy] at hm
  | bool b =>
      cases b with
      | false => simp [Json.truthy] at hm
      | true => rfl
  | number n =>
      have hn : n.isZero = false := by simpa [Json.truthy] using hm
      simp [truthyMessage?, hn, Json.compact]
  | string s => exact absurd rfl (hs s)
  | array items => rfl
  | object fields => rfl

/-! ## Carried messages -/

namespace ResponseBody.Carries

theorem ne_empty {b : ResponseBody} {s : String} (h : b.Carries s) : s ≠ "" := by
  cases h with
  | text hs => exact hs
  | jsonString hs => exact hs
  | messageString _ hs => exact hs
  | messageValue _ _ _ => exact Json.compact_ne_empty _

/-- The message a body carries is what the body's own rule reads. -/
theorem failureMessage_eq {b : ResponseBody} {s : String} (h : b.Carries s) :
    failureMessage b = s := by
  cases h with
  | text hs => simp [failureMessage, hs, String.isEmpty_iff]
  | jsonString hs => simp [failureMessage, hs, String.isEmpty_iff]
  | messageString hget hs =>
      simp only [failureMessage]
      rw [hget, Option.bind_some, truthyMessage?_string hs]
      rfl
  | messageValue hget htruthy hstring =>
      simp only [failureMessage]
      rw [hget, Option.bind_some, truthyMessage?_of_truthy htruthy hstring]
      rfl

end ResponseBody.Carries

/-- A body that carries no message is reported as `Request failed`. -/
theorem failureMessage_of_not_carries {b : ResponseBody} (h : ∀ s, ¬ b.Carries s) :
    failureMessage b = defaultFailureMessage := by
  cases b with
  | text s =>
      have hs : s = "" := Classical.not_not.mp fun hs => h s (.text hs)
      simp [failureMessage, hs]
  | json v =>
      cases v with
      | string s =>
          have hs : s = "" := Classical.not_not.mp fun hs => h s (.jsonString hs)
          simp [failureMessage, hs]
      | object fields =>
          have hnone : ((Json.object fields).get? "message").bind truthyMessage? = none := by
            cases hget : (Json.object fields).get? "message" with
            | none => rfl
            | some m =>
                rw [Option.bind_some, truthyMessage?_eq_none_iff]
                by_contra htruthy
                rw [Bool.not_eq_false] at htruthy
                by_cases hstr : ∃ s, m = .string s
                · obtain ⟨s, rfl⟩ := hstr
                  have hs : s ≠ "" := by
                    rintro rfl
                    simp [Json.truthy] at htruthy
                  exact h s (.messageString hget hs)
                · exact h _ (.messageValue hget htruthy fun s hs => hstr ⟨s, hs⟩)
          simp only [failureMessage]
          rw [hnone]
          rfl
      | _ => rfl

/-- The message of a failed request: the one its body carries, else `Request failed`. -/
theorem failureMessage_eq_iff (b : ResponseBody) (s : String) :
    failureMessage b = s ↔ b.Carries s ∨ ((∀ t, ¬ b.Carries t) ∧ s = defaultFailureMessage) := by
  constructor
  · intro h
    by_cases hc : ∃ t, b.Carries t
    · obtain ⟨t, ht⟩ := hc
      rw [ht.failureMessage_eq] at h
      exact .inl (h ▸ ht)
    · have hnone : ∀ t, ¬ b.Carries t := fun t ht => hc ⟨t, ht⟩
      exact .inr ⟨hnone, h ▸ failureMessage_of_not_carries hnone⟩
  · rintro (hs | ⟨hnone, rfl⟩)
    · exact hs.failureMessage_eq
    · exact failureMessage_of_not_carries hnone

theorem failureMessage_ne_empty (b : ResponseBody) : failureMessage b ≠ "" := by
  by_cases hc : ∃ t, b.Carries t
  · obtain ⟨t, ht⟩ := hc
    rw [ht.failureMessage_eq]
    exact ht.ne_empty
  · rw [failureMessage_of_not_carries fun t ht => hc ⟨t, ht⟩]
    decide

/-- The message of a failed request is the non-empty message its body carries, and
`Request failed` when it carries none: a non-empty text or JSON string as it is, the truthy
`message` field of an object as it is when a string and as compact JSON otherwise. Every
request failure a response decodes to has a non-empty message. -/
theorem failure_messages_are_carried_or_default :
    (∀ b : ResponseBody, failureMessage b ≠ "" ∧
      ∀ s, failureMessage b = s ↔ b.Carries s ∨ ((∀ t, ¬ b.Carries t) ∧ s = "Request failed")) ∧
    ∀ (r : RawResponse) (status : Nat) (message : String),
      decodeResponse r = .error (.requestFailed status message) → message ≠ "" := by
  refine ⟨fun b => ⟨failureMessage_ne_empty b, failureMessage_eq_iff b⟩, ?_⟩
  intro r status message h
  rw [((decodeResponse_eq_requestFailed_iff r status message).mp h).2.2]
  exact failureMessage_ne_empty _

end HomePanel
