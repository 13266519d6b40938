import LinkAudit.Comparison.Release
import LinkAudit.Proofs.Reportable
import Std.Data.TreeSet.Lemmas

/-!
The release side of a comparison, by the symbols and objects of the release build. A name is kept if
it is the name of a release symbol and reportable by the modules of the release build itself.
-/

namespace LinkAudit

namespace LinkMap

def HasName (m : LinkMap) (name : Text) : Prop := ∃ s ∈ m.symbols, s.name = name

/-- Whether the build has the name as that of a declaration of its own modules. -/
def Keeps (m : LinkMap) (name : Text) : Prop :=
  m.HasName name ∧ isReportable Mangled.reportableKinds (Modules.ofProject m) name = true

/-- Whether the build has an object of the same normal path or of the same base name. -/
def HasObject (m : LinkMap) (current : Path) (o : ObjectFile) : Prop :=
  ∃ r ∈ m.objects.toList, r.normalPath current = o.normalPath current ∨ r.baseName = o.baseName

end LinkMap

namespace ReleaseSide

variable {release : LinkMap} {current : Path}

theorem contains_keptNames_iff {name : Text} :
    (ofMap release current).keptNames.contains name = true ↔ release.Keeps name := by
  simp only [ofMap, Std.TreeSet.contains_ofList, List.contains_iff_mem, List.mem_filter,
    List.mem_map]
  rfl

theorem hasObject_iff {o : ObjectFile} :
    (ofMap release current).hasObject o current = true ↔ release.HasObject current o := by
  simp only [hasObject, ofMap, Bool.or_eq_true, Std.TreeSet.contains_ofList, List.contains_iff_mem,
    List.mem_map]
  constructor
  · rintro (⟨r, hr, hpath⟩ | ⟨r, hr, hname⟩)
    · exact ⟨r, hr, .inl hpath⟩
    · exact ⟨r, hr, .inr hname⟩
  · rintro ⟨r, hr, hpath | hname⟩
    · exact .inl ⟨r, hr, hpath⟩
    · exact .inr ⟨r, hr, hname⟩

end ReleaseSide

end LinkAudit
