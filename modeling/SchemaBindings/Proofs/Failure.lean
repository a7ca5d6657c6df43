import Mathlib.Data.List.Forall2
import SchemaBindings.Resolve.Error

/-!
Which failures a computation can end in, computations that agree as long as one of them does not
stop early, and computations that succeed where others do. All pass through binding and through
traversals of lists.
-/

namespace SchemaBindings

variable {ε α β γ δ : Type}

theorem bind_eq_ok_iff {x : Except ε α} {f : α → Except ε β} {b : β} :
    x >>= f = .ok b ↔ ∃ a, x = .ok a ∧ f a = .ok b := by
  cases x with
  | error e => simp [bind, Except.bind]
  | ok a => simp [bind, Except.bind]

theorem bind_eq_error_iff {x : Except ε α} {f : α → Except ε β} {e : ε} :
    x >>= f = .error e ↔ x = .error e ∨ ∃ a, x = .ok a ∧ f a = .error e := by
  cases x with
  | error e => simp [bind, Except.bind]
  | ok a => simp [bind, Except.bind]

theorem exists_bind_eq_ok_iff {x : Except ε α} {f : α → Except ε β} :
    (∃ b, x >>= f = .ok b) ↔ ∃ a, x = .ok a ∧ ∃ b, f a = .ok b := by
  constructor
  · rintro ⟨b, done⟩
    obtain ⟨a, first, later⟩ := bind_eq_ok_iff.mp done
    exact ⟨a, first, b, later⟩
  · rintro ⟨a, first, b, later⟩
    exact ⟨b, bind_eq_ok_iff.mpr ⟨a, first, later⟩⟩

theorem exists_pure_eq_ok (a : α) : ∃ b, (pure a : Except ε α) = .ok b :=
  ⟨a, rfl⟩

theorem map_eq_ok_iff {x : Except ε α} {f : α → β} {b : β} :
    x.map f = .ok b ↔ ∃ a, x = .ok a ∧ f a = b := by
  cases x with
  | error e => simp [Except.map]
  | ok a => simp [Except.map]

theorem mapM_ok_of_forall {f : α → Except ε β} {good : β → Prop} {xs : List α}
    (each : ∀ x ∈ xs, ∃ y, f x = .ok y ∧ good y) :
    ∃ ys, xs.mapM f = .ok ys ∧ ys.length = xs.length ∧ ∀ y ∈ ys, good y := by
  induction xs with
  | nil => exact ⟨[], rfl, rfl, by simp⟩
  | cons x xs ih =>
      obtain ⟨y, first, goodFirst⟩ := each x List.mem_cons_self
      obtain ⟨ys, rest, length, goodRest⟩ := ih
        (by intro other member; exact each other (List.mem_cons_of_mem x member))
      refine ⟨y :: ys, ?_, by simp [length], ?_⟩
      · rw [List.mapM_cons, first, rest]
        rfl
      · intro z member
        rcases List.mem_cons.mp member with rfl | later
        · exact goodFirst
        · exact goodRest z later

theorem forall₂_of_mapM {f : α → Except ε β} {xs : List α} {ys : List β}
    (done : xs.mapM f = .ok ys) : List.Forall₂ (fun y x => f x = .ok y) ys xs := by
  induction xs generalizing ys with
  | nil =>
      cases done
      exact .nil
  | cons x xs ih =>
      rw [List.mapM_cons] at done
      obtain ⟨y, first, done⟩ := bind_eq_ok_iff.mp done
      obtain ⟨rest, later, made⟩ := bind_eq_ok_iff.mp done
      cases made
      exact .cons first (ih later)

theorem exists_of_mapM {f : α → Except ε β} {xs : List α} {ys : List β}
    (done : xs.mapM f = .ok ys) {y : β} (member : y ∈ ys) : ∃ x ∈ xs, f x = .ok y := by
  have each := forall₂_of_mapM done
  clear done
  induction each with
  | nil => cases member
  | cons first _ ih =>
      rcases List.mem_cons.mp member with rfl | later
      · exact ⟨_, List.mem_cons_self, first⟩
      · obtain ⟨x, listed, made⟩ := ih later
        exact ⟨x, List.mem_cons_of_mem _ listed, made⟩

theorem ok_of_mapM {f : α → Except ε β} {xs : List α} {ys : List β}
    (done : xs.mapM f = .ok ys) {x : α} (member : x ∈ xs) : ∃ y ∈ ys, f x = .ok y := by
  have each := forall₂_of_mapM done
  clear done
  induction each with
  | nil => cases member
  | cons first _ ih =>
      rcases List.mem_cons.mp member with rfl | later
      · exact ⟨_, List.mem_cons_self, first⟩
      · obtain ⟨y, listed, made⟩ := ih later
        exact ⟨y, List.mem_cons_of_mem _ listed, made⟩

theorem map_eq_of_mapM {f : α → Except ε β} {first : α → γ} {second : β → γ} {xs : List α}
    {ys : List β} (done : xs.mapM f = .ok ys)
    (shared : ∀ x y, f x = .ok y → second y = first x) : ys.map second = xs.map first := by
  have each := forall₂_of_mapM done
  clear done
  induction each with
  | nil => rfl
  | cons made _ ih => rw [List.map_cons, List.map_cons, shared _ _ made, ih]

/-- The fields that come of the results that are kept. -/
theorem exists_sublist_of_mapM {f : α → Except ε β} {xs : List α} {ys : List β}
    (done : xs.mapM f = .ok ys) (keep : β → Bool) :
    ∃ kept : List α, kept.Sublist xs ∧ kept.mapM f = .ok (ys.filter keep) := by
  have each := forall₂_of_mapM done
  clear done
  induction each with
  | nil => exact ⟨[], .slnil, rfl⟩
  | @cons y x ys xs first rest ih =>
      obtain ⟨kept, within, done⟩ := ih
      by_cases keeps : keep y = true
      · refine ⟨x :: kept, within.cons_cons x, ?_⟩
        rw [List.mapM_cons, first, List.filter_cons_of_pos keeps, done]
        rfl
      · exact ⟨kept, within.cons x, by rw [List.filter_cons_of_neg keeps, done]⟩

theorem mapM_of_forall₂ {f : α → Except ε β} {xs : List α} {ys : List β}
    (each : List.Forall₂ (fun y x => f x = .ok y) ys xs) : xs.mapM f = .ok ys := by
  induction each with
  | nil => rfl
  | cons first _ ih =>
      rw [List.mapM_cons, first, ih]
      rfl

theorem forM_outcome (f : α → Except ε Unit) (xs : List α) :
    (xs.forM f = .ok () ∧ ∀ x ∈ xs, f x = .ok ()) ∨
    ∃ before x after e, xs = before ++ x :: after ∧ (∀ y ∈ before, f y = .ok ()) ∧
      f x = .error e ∧ xs.forM f = .error e := by
  induction xs with
  | nil => exact .inl ⟨rfl, by simp⟩
  | cons x xs ih =>
      cases checked : f x with
      | error e =>
          refine .inr ⟨[], x, xs, e, rfl, by simp, checked, ?_⟩
          rw [List.forM_eq_forM, List.forM_cons, checked]
          rfl
      | ok passed =>
          have step : (x :: xs).forM f = xs.forM f := by
            rw [List.forM_eq_forM, List.forM_cons, checked]
            rfl
          rw [step]
          rcases ih with ⟨done, each⟩ | ⟨before, y, after, e, rfl, each, failed, ended⟩
          · exact .inl ⟨done, List.forall_mem_cons.mpr ⟨checked, each⟩⟩
          · exact .inr ⟨x :: before, y, after, e, rfl,
              List.forall_mem_cons.mpr ⟨checked, each⟩, failed, ended⟩

/-- The failure of a computation, if it fails. -/
def error? : Except ε α → Option ε
  | .error e => some e
  | .ok _ => none

theorem error?_eq_some_iff {x : Except ε α} {e : ε} : error? x = some e ↔ x = .error e := by
  cases x with
  | error other => simp [error?]
  | ok a => exact ⟨nofun, nofun⟩

theorem error?_eq_none_iff {x : Except ε α} : error? x = none ↔ ∃ a, x = .ok a := by
  cases x with
  | error e => simp [error?]
  | ok a => simp [error?]

theorem error?_map (f : α → β) (x : Except ε α) : error? (f <$> x) = error? x := by
  cases x with
  | error e => rfl
  | ok a => rfl

theorem error?_bind_congr {x : Except ε α} {y : Except ε β} {f : α → Except ε γ}
    {g : β → Except ε δ} (first : error? x = error? y) (next : ∀ a b, error? (f a) = error? (g b)) :
    error? (x >>= f) = error? (y >>= g) := by
  cases x with
  | error e => cases y with
    | error other => exact first
    | ok b => cases first
  | ok a => cases y with
    | error e => cases first
    | ok b => exact next a b

theorem error?_mapM (f : α → Except ε β) (xs : List α) :
    error? (xs.mapM f) = (xs.map f).findSome? error? := by
  induction xs with
  | nil => rfl
  | cons x xs ih =>
      rw [List.mapM_cons, List.map_cons, List.findSome?_cons, ← ih]
      cases f x with
      | error e => rfl
      | ok y => cases xs.mapM f <;> rfl

/-- Each failure of `x` satisfies `p`. -/
def FailsOnly (p : ε → Prop) (x : Except ε α) : Prop :=
  ∀ e, x = .error e → p e

namespace FailsOnly

variable {p : ε → Prop}

theorem ok (a : α) : FailsOnly p (.ok a : Except ε α) := by
  intro e failed
  cases failed

theorem error {e : ε} (allowed : p e) : FailsOnly p (.error e : Except ε α) := by
  intro other failed
  cases failed
  exact allowed

theorem bind {x : Except ε α} {f : α → Except ε β} (first : FailsOnly p x)
    (next : ∀ a, x = .ok a → FailsOnly p (f a)) : FailsOnly p (x >>= f) := by
  intro e failed
  rcases bind_eq_error_iff.mp failed with early | ⟨a, done, late⟩
  · exact first e early
  · exact next a done e late

theorem map {x : Except ε α} (f : α → β) (only : FailsOnly p x) : FailsOnly p (f <$> x) := by
  cases x with
  | error e => exact error (only e rfl)
  | ok a => exact ok (f a)

theorem imp {q : ε → Prop} {x : Except ε α} (only : FailsOnly p x) (weaker : ∀ e, p e → q e) :
    FailsOnly q x :=
  fun e failed => weaker e (only e failed)

theorem mapError {q : δ → Prop} {x : Except ε α} {f : ε → δ} (only : FailsOnly p x)
    (each : ∀ e, p e → q (f e)) : FailsOnly q (x.mapError f) := by
  cases x with
  | error e => exact error (each e (only e rfl))
  | ok a => exact ok a

theorem mapM {f : α → Except ε β} {xs : List α} (each : ∀ x ∈ xs, FailsOnly p (f x)) :
    FailsOnly p (xs.mapM f) := by
  induction xs with
  | nil => exact ok []
  | cons x xs ih =>
      rw [List.mapM_cons]
      apply bind (each x List.mem_cons_self)
      intro y _
      apply bind (ih (by intro other member; exact each other (List.mem_cons_of_mem x member)))
      intro ys _
      exact ok (y :: ys)

theorem ok_or_error {x : Except ε α} (only : FailsOnly p x) :
    (∃ a, x = .ok a) ∨ ∃ e, x = .error e ∧ p e := by
  cases x with
  | error e => exact .inr ⟨e, rfl, only e rfl⟩
  | ok a => exact .inl ⟨a, rfl⟩

end FailsOnly

/-- Either `x` stops with a failure that satisfies `p`, or it is `y`. -/
def AgreesUnless (p : ε → Prop) (x y : Except ε α) : Prop :=
  (∃ e, x = .error e ∧ p e) ∨ x = y

namespace AgreesUnless

variable {p : ε → Prop}

theorem refl (x : Except ε α) : AgreesUnless p x x :=
  .inr rfl

theorem stopped {e : ε} (allowed : p e) (y : Except ε α) : AgreesUnless p (.error e) y :=
  .inl ⟨e, rfl, allowed⟩

theorem bind {x y : Except ε α} {f g : α → Except ε β} (first : AgreesUnless p x y)
    (next : ∀ a, AgreesUnless p (f a) (g a)) : AgreesUnless p (x >>= f) (y >>= g) := by
  rcases first with ⟨e, rfl, allowed⟩ | rfl
  · exact stopped allowed _
  · cases x with
    | error e => exact refl _
    | ok a => exact next a

theorem mapM {f g : α → Except ε β} (each : ∀ x, AgreesUnless p (f x) (g x)) (xs : List α) :
    AgreesUnless p (xs.mapM f) (xs.mapM g) := by
  induction xs with
  | nil => exact refl _
  | cons x xs ih =>
      rw [List.mapM_cons, List.mapM_cons]
      apply bind (each x)
      intro y
      exact bind ih (fun ys => refl _)

theorem eq_ok {x y : Except ε α} {a : α} (agrees : AgreesUnless p x y) (done : x = .ok a) :
    y = .ok a := by
  rcases agrees with ⟨e, failed, _⟩ | same
  · rw [done] at failed
    cases failed
  · exact same ▸ done

end AgreesUnless

/-- Where `y` succeeds, so does `x`, with a result that `r` relates to that of `y`. -/
def Follows (r : α → β → Prop) (x : Except ε α) (y : Except ε β) : Prop :=
  ∀ b, y = .ok b → ∃ a, x = .ok a ∧ r a b

namespace Follows

variable {r : α → β → Prop} {s : γ → δ → Prop}

theorem ok {a : α} {b : β} (related : r a b) :
    Follows r (.ok a : Except ε α) (.ok b : Except ε β) := by
  intro b' done
  cases done
  exact ⟨a, rfl, related⟩

theorem error (x : Except ε α) (e : ε) : Follows r x (.error e : Except ε β) := by
  intro b done
  cases done

theorem refl (x : Except ε α) : Follows Eq x x := by
  intro a done
  exact ⟨a, done, rfl⟩

theorem eq_ok {x y : Except ε α} {a : α} (follows : Follows Eq x y) (done : y = .ok a) :
    x = .ok a := by
  obtain ⟨_, ran, rfl⟩ := follows a done
  exact ran

theorem bind {x : Except ε α} {y : Except ε β} {f : α → Except ε γ} {g : β → Except ε δ}
    (first : Follows r x y) (next : ∀ a b, r a b → Follows s (f a) (g b)) :
    Follows s (x >>= f) (y >>= g) := by
  intro b done
  obtain ⟨middle, early, late⟩ := bind_eq_ok_iff.mp done
  obtain ⟨a, ran, related⟩ := first middle early
  rw [ran]
  exact next a middle related b late

theorem map {x : Except ε α} {y : Except ε β} {f : α → γ} {g : β → δ} (first : Follows r x y)
    (next : ∀ a b, r a b → s (f a) (g b)) : Follows s (x.map f) (y.map g) :=
  first.bind fun a b related => ok (next a b related)

theorem mapM {t : γ → δ → Prop} {f : γ → Except ε α} {g : δ → Except ε β}
    (each : ∀ x y, t x y → Follows r (f x) (g y)) {xs : List γ} {ys : List δ}
    (related : List.Forall₂ t xs ys) : Follows (List.Forall₂ r) (xs.mapM f) (ys.mapM g) := by
  induction related with
  | nil => exact ok .nil
  | cons first rest ih =>
      rw [List.mapM_cons, List.mapM_cons]
      apply bind (each _ _ first)
      intro a b head
      apply bind ih
      intro as bs tail
      exact ok (.cons head tail)

end Follows

namespace GenerationError

def IsAliasCycle (e : GenerationError) : Prop :=
  ∃ name limit, e = .aliasCycle name limit

def IsSchemaFault (e : GenerationError) : Prop :=
  ∀ cause, e ≠ .importMisuse cause

end GenerationError

end SchemaBindings
