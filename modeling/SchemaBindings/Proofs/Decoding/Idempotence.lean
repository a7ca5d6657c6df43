import SchemaBindings.Proofs.Decoding.Canonical
import SchemaBindings.Proofs.Decoding.NewtypePolicy

/-!
Canonical types written back. A canonical type has a derivation from its own type expression, as
tall as it is nested, and no type it is decoded from has a lower one. So decoding it once more gives
it again and stays within the limit.
-/

namespace SchemaBindings

namespace Decoded

mutual

/-- The parts on the longest way down. -/
def nesting : Decoded → Nat
  | .primitive _ => 0
  | .vector elem => nesting elem + 1
  | .stringMap elem => nesting elem + 1
  | .nullable elem => nesting elem + 1
  | .reference _ _ arguments => nestingAll arguments

def nestingAll : List Decoded → Nat
  | [] => 0
  | d :: rest => max (nesting d + 1) (nestingAll rest)

end

end Decoded

namespace Decoder

variable {d : Decoder} {te : TypeExpr} {decoded : Decoded} {arguments : List Decoded}
  {height : Nat}

theorem derivesAll_typeExprs
    (each : ∀ argument ∈ arguments, d.Derives argument.nesting argument.typeExpr argument) :
    d.DerivesAll (Decoded.nestingAll arguments) (Decoded.typeExprs arguments) arguments := by
  induction arguments with
  | nil => exact .nil
  | cons argument rest ih =>
      have ⟨first, later⟩ := List.forall_mem_cons.mp each
      exact .cons first (ih later)

theorem Canonical.derives (canonical : d.Canonical decoded) :
    d.Derives decoded.nesting decoded.typeExpr decoded := by
  induction canonical with
  | primitive p => exact .scalar p
  | vector _ ih => exact .container (.vector _) ih
  | stringMap _ ih => exact .container (.stringMap _) ih
  | nullable once _ ih => exact .container (.nullable once) ih
  | @reference name decl arguments resolved kept arity each ih =>
      have parts := derivesAll_typeExprs ih
      have supplied : (Decoded.typeExprs arguments).length = decl.typeParams.length :=
        parts.length_eq.symm.trans arity
      exact .reference resolved kept supplied parts

theorem Wraps.nesting_le {container : String} {elem made : Decoded}
    (wraps : Wraps container elem made) : made.nesting ≤ elem.nesting + 1 := by
  cases wraps with
  | vector elem => simp [Decoded.nesting]
  | stringMap elem => simp [Decoded.nesting]
  | nullable once => simp [Decoded.nesting]
  | collapsed inner => omega

mutual

/-- Expansions and doubled nullables only make the derivation taller than the result is nested. -/
theorem Derives.nesting_le : ∀ {height : Nat} {te : TypeExpr} {decoded : Decoded},
    d.Derives height te decoded → decoded.nesting ≤ height
  | _, _, _, .scalar p => by simp [Decoded.nesting]
  | _, _, _, .container wraps element => by
      have inner := element.nesting_le
      have outer := wraps.nesting_le
      omega
  | _, _, _, .expanded _ rest => by
      have below := rest.nesting_le
      omega
  | _, _, _, .reference _ _ _ each => by
      simpa only [Decoded.nesting] using each.nestingAll_le

theorem DerivesAll.nestingAll_le :
    ∀ {height : Nat} {tes : List TypeExpr} {arguments : List Decoded},
      d.DerivesAll height tes arguments → Decoded.nestingAll arguments ≤ height
  | _, _, _, .nil => by simp [Decoded.nestingAll]
  | _, _, _, .cons first later => by
      have head := first.nesting_le
      have tail := later.nestingAll_le
      simp only [Decoded.nestingAll]
      omega

end

theorem Canonical.decode_typeExpr_iff (canonical : d.Canonical decoded) :
    d.decode decoded.typeExpr = .ok decoded ↔ decoded.nesting ≤ decodingLimit := by
  constructor
  · intro done
    obtain ⟨height, within, derived⟩ := decodeWithin_eq_ok_iff.mp done
    calc
      decoded.nesting ≤ height := derived.nesting_le
      _ ≤ decodingLimit := within
  · intro within
    exact decodeWithin_eq_ok_iff.mpr ⟨_, within, canonical.derives⟩

/-- What was decoded is decoded again from the type expression it is written back as, and that never
takes more levels than the first decoding did. -/
theorem decode_idempotent (done : d.decode te = .ok decoded) :
    d.decode decoded.typeExpr = .ok decoded ∧
      ∀ height, d.Derives height te decoded →
        ∃ lower ≤ height, d.Derives lower decoded.typeExpr decoded := by
  have canonical : d.Canonical decoded := canonical_of_decodeWithin done
  constructor
  · obtain ⟨height, within, derived⟩ := decodeWithin_eq_ok_iff.mp done
    have nested : decoded.nesting ≤ decodingLimit := Nat.le_trans derived.nesting_le within
    exact canonical.decode_typeExpr_iff.mpr nested
  · intro height derived
    exact ⟨decoded.nesting, derived.nesting_le, canonical.derives⟩

end Decoder

namespace Sample

/-- The nullables that met through aliases are written back as one. -/
theorem offer_decoded_again :
    stallDecoder.decode offer = .ok decodedOffer ∧
      stallDecoder.decode decodedOffer.typeExpr = .ok decodedOffer ∧
      ∀ height, stallDecoder.Derives height offer decodedOffer →
        ∃ lower ≤ height, stallDecoder.Derives lower decodedOffer.typeExpr decodedOffer :=
  have decodes : stallDecoder.decode offer = .ok decodedOffer := by rfl
  ⟨decodes, Decoder.decode_idempotent decodes⟩

end Sample

end SchemaBindings
