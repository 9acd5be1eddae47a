import UnityBuild.Failure
import UnityBuild.Log.Basic

/-!
# Outcomes

An outcome is a value or a failure, together with the lines that were logged on the way to it. When
one step follows another their lines follow each other. A failure ends the sequence and keeps the
lines that were logged before it.
-/

namespace UnityBuild

structure Outcome (α : Type) where
  log : List LogLine
  result : Except Failure α
  deriving Repr

namespace Outcome

variable {α β γ : Type}

protected def pure (value : α) : Outcome α := ⟨[], .ok value⟩

protected def bind (first : Outcome α) (next : α → Outcome β) : Outcome β :=
  match first.result with
  | .ok value => ⟨first.log ++ (next value).log, (next value).result⟩
  | .error failure => ⟨first.log, .error failure⟩

instance : Monad Outcome where
  pure := Outcome.pure
  bind := Outcome.bind

def fail (failure : Failure) : Outcome α := ⟨[], .error failure⟩

def write (level : Level) (part : Part) (text : String) : Outcome Unit :=
  ⟨[⟨level, part, text⟩], .ok ()⟩

def writeIf (condition : Bool) (level : Level) (part : Part) (text : String) : Outcome Unit :=
  ⟨if condition then [⟨level, part, text⟩] else [], .ok ()⟩

def ofExcept (result : Except Failure α) : Outcome α := ⟨[], result⟩

def within (outcome : Outcome α) (context : Context) : Outcome α :=
  ⟨outcome.log, outcome.result.mapError (·.within context)⟩

@[simp] theorem log_pure (value : α) : (pure value : Outcome α).log = [] := rfl

@[simp] theorem result_pure (value : α) : (pure value : Outcome α).result = .ok value := rfl

theorem log_bind_of_ok {first : Outcome α} {value : α} (h : first.result = .ok value)
    (next : α → Outcome β) : (first >>= next).log = first.log ++ (next value).log := by
  simp [bind, Outcome.bind, h]

theorem result_bind_of_ok {first : Outcome α} {value : α} (h : first.result = .ok value)
    (next : α → Outcome β) : (first >>= next).result = (next value).result := by
  simp [bind, Outcome.bind, h]

theorem bind_of_error {first : Outcome α} {failure : Failure} (h : first.result = .error failure)
    (next : α → Outcome β) : (first >>= next) = ⟨first.log, .error failure⟩ := by
  simp [bind, Outcome.bind, h]

theorem result_bind_eq_ok_iff {first : Outcome α} {next : α → Outcome β} {value : β} :
    (first >>= next).result = .ok value ↔
      ∃ middle, first.result = .ok middle ∧ (next middle).result = .ok value := by
  cases h : first.result with
  | error => simp [bind, Outcome.bind, h]
  | ok middle => simp [bind, Outcome.bind, h]

instance : LawfulMonad Outcome := LawfulMonad.mk' Outcome
  (fun first => by
    obtain ⟨log, result⟩ := first
    cases result <;> simp [Functor.map, Outcome.bind, Outcome.pure])
  (fun value next => by simp [bind, Outcome.bind, pure, Outcome.pure])
  (fun first next last => by
    obtain ⟨log, result⟩ := first
    cases result with
    | error => simp [bind, Outcome.bind]
    | ok value =>
      cases h : (next value).result <;> simp [bind, Outcome.bind, h])

end Outcome

end UnityBuild
