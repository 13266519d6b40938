import LinkAudit.Proofs.Text.Case
import LinkAudit.Source.Hint

/-!
Hints from the names of literals. The mark is looked for in the lowered name, but the payload is cut
from the name itself at the position found there. In front of the mark a capital I with a dot above
has two characters in the lowered name, so that for each of them one character is missing from the
payload. Main statement: what stands in front of the mark costs the payload as many characters as it
has such capitals, and makes no difference for all payloads if and only if it has none.
-/

namespace LinkAudit

namespace Project

open Text (dottedCapital plainLower)

variable {before : Text}

theorem position?_lower_literalMark (t : Text) :
    t.lower.position? literalMark = Text.position? (t.flatMap plainLower) literalMark :=
  Text.position?_lower (by decide) (by decide) t

/-- The mark is found behind what stands in front of it, as far as that is long when lowered. -/
theorem position?_literalMark_append (h : ¬literalMark <:+: before.lower) (payload : Text) :
    (before ++ (literalMark ++ payload)).lower.position? literalMark =
      some (before.length + before.count dottedCapital) := by
  have hmark : literalMark.flatMap plainLower = literalMark := by decide
  have hsplit : literalMark = "literal string".toList ++ [':'] := rfl
  rw [← Text.position?_eq_none_iff, position?_lower_literalMark, Text.position?_eq_none_iff] at h
  rw [position?_lower_literalMark, List.flatMap_append, List.flatMap_append, hmark,
    ← Text.length_flatMap_plainLower]
  rw [hsplit] at h ⊢
  exact Text.position?_append_of_not_isInfix (by decide) h _

theorem literalPayload?_append (h : ¬literalMark <:+: before.lower) (payload : Text) :
    literalPayload? (before ++ (literalMark ++ payload)) =
      Text.nonempty? (Text.trimBlanks (payload.drop (before.count dottedCapital))) := by
  have hpassed : before.length + before.count dottedCapital + literalMark.length =
      before.length + (literalMark.length + before.count dottedCapital) := by
    omega
  rw [literalPayload?, position?_literalMark_append h, Option.bind_eq_bind, Option.bind_some,
    hpassed, List.drop_length_add_append, List.drop_length_add_append]

theorem literalPayload?_literalMark_append (payload : Text) :
    literalPayload? (literalMark ++ payload) = Text.nonempty? (Text.trimBlanks payload) :=
  @literalPayload?_append [] (by decide) payload

/-- What stands in front of the mark takes characters from the payload, and nothing else. -/
theorem literalHint?_append (h : ¬literalMark <:+: before.lower) (p : Project) (payload : Text) :
    p.literalHint? (before ++ (literalMark ++ payload)) =
      p.literalHint? (literalMark ++ payload.drop (before.count dottedCapital)) := by
  rw [literalHint?, literalHint?, literalPayload?_append h, literalPayload?_literalMark_append]

def soleSourceProject : Project where
  tree := { root := .empty, current := [['p']] }
  root := none
  index := .ofFiles [Path.ofText "/p/A.swift".toList]

/-- A payload of one character is lost to a single capital. -/
theorem literalHint?_ne_of_mem (h : ¬literalMark <:+: before.lower) (hmem : dottedCapital ∈ before) :
    soleSourceProject.literalHint? (before ++ (literalMark ++ ['A'])) ≠
      soleSourceProject.literalHint? (literalMark ++ ['A']) := by
  have hpositive : 0 < before.count dottedCapital := List.count_pos_iff.mpr hmem
  have hlost : ['A'].drop (before.count dottedCapital) = [] := List.drop_eq_nil_of_le hpositive
  rw [literalHint?_append h, hlost]
  decide +kernel

/-- What stands in front of the mark takes as many characters from the payload as it has capital
letters I with a dot above, so that the hint is the same for all payloads if and only if there is no
such capital. -/
theorem literalHint?_append_literalMark (h : ¬literalMark <:+: before.lower) :
    (∀ (p : Project) (payload : Text),
      p.literalHint? (before ++ (literalMark ++ payload)) =
        p.literalHint? (literalMark ++ payload.drop (before.count dottedCapital))) ∧
    ((∀ (p : Project) (payload : Text),
      p.literalHint? (before ++ (literalMark ++ payload)) =
        p.literalHint? (literalMark ++ payload)) ↔ dottedCapital ∉ before) := by
  refine ⟨literalHint?_append h, ?_, ?_⟩
  · intro hsame hmem
    exact literalHint?_ne_of_mem h hmem (hsame soleSourceProject ['A'])
  · intro hnone p payload
    rw [literalHint?_append h, List.count_eq_zero.mpr hnone, List.drop_zero]

/-- A blank in front of the payload is all that one capital takes. -/
theorem literalHint?_append_literalMark_blank :
    ¬literalMark <:+: Text.lower [dottedCapital] ∧
      soleSourceProject.literalHint? ([dottedCapital] ++ (literalMark ++ " A.swift".toList)) =
        some ⟨"/p/A.swift".toList, some (Path.ofText "/p/A.swift".toList), true⟩ := by
  have hmark : ¬literalMark <:+: Text.lower [dottedCapital] := by decide
  refine ⟨hmark, ?_⟩
  rw [(literalHint?_append_literalMark hmark).1]
  decide +kernel

/-- A file name behind the mark loses its stem to one capital in front of the mark. -/
theorem literalHint?_dottedCapital_eq_none :
    ¬literalMark <:+: Text.lower [dottedCapital] ∧
      soleSourceProject.literalHint? ([dottedCapital] ++ (literalMark ++ "A.swift".toList)) = none ∧
      soleSourceProject.literalHint? (literalMark ++ "A.swift".toList) =
        some ⟨"/p/A.swift".toList, some (Path.ofText "/p/A.swift".toList), true⟩ :=
  ⟨by decide, by decide +kernel, by decide +kernel⟩

end Project

end LinkAudit
