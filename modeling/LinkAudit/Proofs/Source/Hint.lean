import LinkAudit.Proofs.Text.Search
import LinkAudit.Reportable
import LinkAudit.Source.Hint

/-!
Hints for reportable symbols. The name of a literal is noise, so that the hint for a reportable
symbol depends on its object alone.
-/

namespace LinkAudit

theorem Noise.inName_of_literalPayload? {name payload : Text}
    (h : Project.literalPayload? name = some payload) : Noise.inName name = true := by
  obtain ⟨start, hstart, -⟩ := Option.bind_eq_some_iff.mp h
  have hmark := Text.mentions_of_position?_eq_some hstart
  have hword : name.lower.mentions "literal string".toList = true :=
    Text.mentions_of_isInfix ⟨[], [':'], rfl⟩ hmark
  have hwords : Noise.mentionsAny name.lower Noise.words = true :=
    List.any_eq_true.mpr ⟨"literal string".toList, by decide, hword⟩
  simp [Noise.inName, hwords]

namespace Project

variable {p : Project} {kinds modules : List Text} {name : Text}

theorem literalHint?_eq_none_of_isReportable (h : isReportable kinds modules name = true) :
    p.literalHint? name = none := by
  cases hpayload : literalPayload? name with
  | none => simp [literalHint?, hpayload]
  | some payload =>
      have hnoise := Noise.inName_of_literalPayload? hpayload
      simp [isReportable, hnoise] at h

theorem hint_literalHint?_of_isReportable (h : isReportable kinds modules name = true)
    (o : Option ObjectFile) : p.hint o (p.literalHint? name) = p.hint o none := by
  rw [literalHint?_eq_none_of_isReportable h]

end Project

end LinkAudit
