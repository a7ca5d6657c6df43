import SchemaBindings.Proofs.Json.Holding

/-!
What holds of everything that a reading gives. A property of records holds when the blank record has
it and no field takes it away; the members of a map have distinct names, however they are written.
-/

namespace SchemaBindings.Json

/-- Each result of the reading satisfies `p`. -/
def Yields {α : Type} (read : Reading α) (p : α → Prop) : Prop :=
  ∀ depth outline x, read depth outline = .ok x → p x

section Yielding

variable {α β : Type} {read : Reading α} {p : α → Prop}

theorem mapError_eq_ok {ε δ : Type} {x : Except ε α} {f : ε → δ} {a : α}
    (done : x.mapError f = .ok a) : x = .ok a := by
  cases x with
  | error e => cases done
  | ok b =>
      cases done
      rfl

theorem entering_eq_ok {start depth : Nat} {inner : Nat → Except Fault α} {x : α}
    (done : entering start inner depth = .ok x) : ∃ within, inner within = .ok x := by
  cases depth with
  | zero => cases done
  | succ within => exact ⟨within, done⟩

theorem Yields.map (yields : Yields read p) {f : α → β} {q : β → Prop}
    (each : ∀ x, p x → q (f x)) : Yields (fun depth outline => (read depth outline).map f) q := by
  intro depth outline y done
  obtain ⟨x, found, rfl⟩ := map_eq_ok_iff.mp done
  exact each x (yields depth outline x found)

theorem Yields.readAll (yields : Yields read p) {depth : Nat} : ∀ {items : Items} {xs : List α},
    items.readAll (read depth) = .ok xs → ∀ x ∈ xs, p x
  | .done (.closed _), _, done => by
      cases done
      exact List.forall_mem_nil p
  | .done (.cut _ _), _, done => by cases done
  | .more _ value _ rest, _, done => by
      obtain ⟨x, first, done⟩ := bind_eq_ok_iff.mp done
      obtain ⟨others, later, made⟩ := bind_eq_ok_iff.mp done
      cases made
      have head : p x := yields depth value x (mapError_eq_ok first)
      exact List.forall_mem_cons.mpr ⟨head, yields.readAll later⟩

theorem Yields.list (yields : Yields read p) :
    Yields (Json.list read) (fun xs => ∀ x ∈ xs, p x) := by
  intro depth outline xs done
  cases outline with
  | array start items =>
      obtain ⟨_, found⟩ := entering_eq_ok done
      exact yields.readAll found
  | scalar _ _ _ => cases done
  | flawed _ _ _ => cases done
  | broken _ _ _ => cases done
  | object _ _ => cases done

/-! ### Maps -/

theorem keys_putKey_of_present {name : String} {x : α} {entries : List (String × α)}
    (present : name ∈ entries.map (·.1)) :
    (putKey name x entries).map (·.1) = entries.map (·.1) := by
  induction entries with
  | nil => cases present
  | cons entry rest ih =>
      rcases entry with ⟨key, value⟩
      rw [putKey]
      by_cases same : key = name
      · rw [if_pos same]
        rfl
      · have later : name ∈ rest.map (·.1) := List.mem_of_ne_of_mem (Ne.symm same) present
        rw [if_neg same, List.map_cons, ih later, List.map_cons]

theorem nodup_putKey {name : String} {x : α} {entries : List (String × α)}
    (distinct : (entries.map (·.1)).Nodup) : ((putKey name x entries).map (·.1)).Nodup := by
  by_cases present : name ∈ entries.map (·.1)
  · rw [keys_putKey_of_present present]
    exact distinct
  · rw [putKey_of_absent present, List.map_append, List.map_singleton, ← List.concat_eq_append]
    exact distinct.concat present

theorem nodup_readAll {read : Outline → Except Fault α} :
    ∀ {members : Members} {entries found : List (String × α)},
      members.readAll read entries = .ok found → (entries.map (·.1)).Nodup →
        (found.map (·.1)).Nodup
  | .done (.closed _), _, _, done, distinct => by
      cases done
      exact distinct
  | .done (.cut _ _), _, _, done, _ => by cases done
  | .more _ _ _ _, _, _, done, distinct => by
      obtain ⟨name, _, done⟩ := bind_eq_ok_iff.mp done
      obtain ⟨x, _, done⟩ := bind_eq_ok_iff.mp done
      exact nodup_readAll done (nodup_putKey distinct)

theorem yields_keyed (read : Reading α) :
    Yields (keyed read) (fun entries => (entries.map (·.1)).Nodup) := by
  intro depth outline entries done
  cases outline with
  | object start members =>
      obtain ⟨_, found⟩ := entering_eq_ok done
      exact nodup_readAll found List.nodup_nil
  | scalar _ _ _ => cases done
  | flawed _ _ _ => cases done
  | broken _ _ _ => cases done
  | array _ _ => cases done

/-! ### Records -/

def Slot.Keeps (slot : Slot α) (p : α → Prop) : Prop :=
  Yields slot.read fun update => ∀ x, p x → p (update x)

theorem Slot.keeps_of (name : String) {read : Reading β} {q : β → Prop} (yields : Yields read q)
    {set : β → α → α} (required : Bool) (keeps : ∀ v, q v → ∀ x, p x → p (set v x)) :
    (Slot.of name read set required).Keeps p :=
  yields.map keeps

variable {slots : List (Slot α)}

theorem keeps_of_fill (each : ∀ slot ∈ slots, slot.Keeps p) {depth after : Nat} :
    ∀ {members : Members} {seen met : List String} {x y : α},
      members.fill slots depth seen x = .ok (met, y, after) → p x → p y
  | .done (.closed _), _, _, _, _, done, holds => by
      cases done
      exact holds
  | .done (.cut _ _), _, _, _, _, done, _ => by cases done
  | .more key value resume rest, seen, _, x, _, done, holds => by
      obtain ⟨name, _, done⟩ := bind_eq_ok_iff.mp done
      cases found : slots.find? (·.name == name) with
      | none =>
          simp only [found] at done
          cases skipped : value.skip? with
          | some fault =>
              simp only [skipped] at done
              cases done
          | none =>
              simp only [skipped] at done
              exact keeps_of_fill each done holds
      | some slot =>
          simp only [found] at done
          split at done
          · cases done
          obtain ⟨update, read, done⟩ := bind_eq_ok_iff.mp done
          have kept : ∀ x, p x → p (update x) :=
            each slot (List.mem_of_find?_eq_some found) depth value update (mapError_eq_ok read)
          exact keeps_of_fill each done (kept x holds)

theorem keeps_of_fillItems {expected : String} {depth : Nat} :
    ∀ {items : Items} {slots : List (Slot α)} {index : Nat} {x y : α},
      items.fill expected depth slots index x = .ok y → (∀ slot ∈ slots, slot.Keeps p) →
        p x → p y
  | .done (.closed _), slots, _, _, _, done, _, holds => by
      unfold Items.fill at done
      split at done
      · cases done
      · cases done
        exact holds
  | .done (.cut _ _), [], _, _, _, done, _, _ => by cases done
  | .done (.cut _ _), _ :: _, _, _, _, done, _, _ => by cases done
  | .more _ _ _ _, [], _, _, _, done, _, _ => by cases done
  | .more _ value _ _, slot :: _, _, x, _, done, each, holds => by
      obtain ⟨update, read, done⟩ := bind_eq_ok_iff.mp done
      obtain ⟨first, later⟩ := List.forall_mem_cons.mp each
      have kept : ∀ x, p x → p (update x) := first depth value update (mapError_eq_ok read)
      exact keeps_of_fillItems done later (kept x holds)

theorem yields_record {title : String} {blank : α} (holds : p blank)
    (each : ∀ slot ∈ slots, slot.Keeps p) : Yields (record title blank slots) p := by
  intro depth outline x done
  cases outline with
  | object start members =>
      obtain ⟨within, found⟩ := entering_eq_ok done
      obtain ⟨⟨met, filled, after⟩, ran, found⟩ := bind_eq_ok_iff.mp found
      have kept : p filled := keeps_of_fill each ran holds
      simp only at found
      split at found
      · cases found
      · cases found
        exact kept
  | array start items =>
      obtain ⟨_, found⟩ := entering_eq_ok done
      exact keeps_of_fillItems found each holds
  | scalar _ _ _ => cases done
  | flawed _ _ _ => cases done
  | broken _ _ _ => cases done

theorem Yields.document (yields : Yields read p) {text : List Char} {x : α}
    (done : readDocument read text = .ok x) : p x := by
  unfold readDocument at done
  simp only at done
  split at done
  · cases done
  · next found =>
      split at done
      · cases done
      · cases done
        exact yields _ _ _ found

end Yielding

end SchemaBindings.Json
