import LinkAudit.Demangled
import LinkAudit.Proofs.Text.Edited

/-!
The steps in which a demangled text is cleaned. Each one writes stretches of the text anew: the
qualifiers of a module, the homes of extensions, anonymous contexts, and more than one space. The
last one drops blanks at both ends. No step makes a text longer.
-/

namespace LinkAudit.Demangled

open Text (Edited)

/-- Whether the text is an anonymous context: blanks, the word `in`, blanks, and an underscore with
a hash. -/
def IsContext (context : Text) : Prop :=
  ∃ before between hash : Text,
    context = before ++ ('i' :: 'n' :: (between ++ '_' :: hash)) ∧
      (before ≠ [] ∧ ∀ c ∈ before, Text.isBlank c = true) ∧
      (between ≠ [] ∧ ∀ c ∈ between, Text.isBlank c = true) ∧ ∀ c ∈ hash, isHashChar c = true

theorem exists_context {t : Text} (h : contextLength t ≠ 0) :
    ∃ context after, IsContext context ∧ t = context ++ after ∧ contextLength t = context.length := by
  have hall {p : Char → Bool} {t : Text} : ∀ c ∈ t.takeWhile p, p c = true :=
    fun c hc => List.all_eq_true.mp List.all_takeWhile c hc
  generalize hlength : contextLength t = length at h ⊢
  rw [contextLength] at hlength
  split at hlength
  case h_2 => exact absurd hlength.symm h
  case h_1 rest hrest =>
    split at hlength
    case h_2 => exact absurd hlength.symm h
    case h_1 name hname =>
      dsimp only at hlength
      split at hlength
      case isTrue => exact absurd hlength.symm h
      case isFalse hparts =>
        simp only [Bool.or_eq_true, List.isEmpty_iff, not_or] at hparts
        refine ⟨_, name.dropWhile isHashChar, ⟨t.takeWhile Text.isBlank,
          rest.takeWhile Text.isBlank, name.takeWhile isHashChar, rfl, ⟨hparts.1.1, hall⟩,
          ⟨hparts.1.2, hall⟩, hall⟩, ?_, ?_⟩
        · simp only [List.append_assoc, List.cons_append, List.takeWhile_append_dropWhile]
          rw [← hname, List.takeWhile_append_dropWhile, ← hrest, List.takeWhile_append_dropWhile]
        · rw [← hlength]
          simp only [List.length_append, List.length_cons]
          omega

theorem edited_substitute_contextLength (t : Text) :
    Edited (fun old fresh => IsContext old ∧ fresh = []) t (t.substitute contextLength []) := by
  refine Text.edited_substituteFrom (fun here hwidth => ?_) 0 t
  obtain ⟨context, after, hcontext, rfl, hlength⟩ := exists_context hwidth
  rw [hlength, List.take_left]
  exact ⟨by simp, hcontext, rfl⟩

theorem length_dropContexts_le (t : Text) : (dropContexts t).length ≤ t.length := by
  have hbare := (edited_substitute_contextLength t).length_le fun _ _ hedit =>
    hedit.2 ▸ Nat.zero_le _
  exact Nat.le_trans (Text.length_replace_le (by decide) _) hbare

theorem edited_dropQualifierFrom {qualifier : Text} (hne : qualifier ≠ []) (before : Option Char)
    (skip : Nat) (t : Text) :
    Edited (fun old fresh => old = qualifier ∧ fresh = []) (t.drop skip)
      (dropQualifierFrom qualifier before skip t) := by
  induction t generalizing before skip with
  | nil =>
      rw [List.drop_nil]
      cases skip <;> exact .done
  | cons c rest ih =>
      cases skip with
      | succ skip => exact ih (some c) skip
      | zero =>
          rw [dropQualifierFrom, List.drop_zero]
          split
          · rename_i hhere
            obtain ⟨after, hafter⟩ := List.isPrefixOf_iff_prefix.mp (Bool.and_eq_true_iff.mp hhere).2
            obtain ⟨d, behind, rfl⟩ := List.exists_cons_of_ne_nil hne
            have hbehind : behind ++ after = rest := (List.cons.inj hafter).2
            have hrest := ih (some c) behind.length
            rw [← hbehind, List.drop_left, hbehind] at hrest
            rw [← hafter]
            exact .write ⟨rfl, rfl⟩ hrest
          · exact (ih (some c) 0).keep c

theorem edited_dropQualifier {moduleName : Text} (hne : moduleName ≠ []) (t : Text) :
    Edited (fun old fresh => old = moduleName ++ ['.'] ∧ fresh = []) t
      (dropQualifier t moduleName) := by
  rw [dropQualifier, if_neg (by simpa using hne)]
  exact edited_dropQualifierFrom (by simp) none 0 t

/-- Two spaces and more are written as one. -/
theorem edited_squeezeSpaces (t : Text) :
    Edited (fun old fresh => (∃ n, old = List.replicate (n + 2) ' ') ∧ fresh = [' ']) t
      (squeezeSpaces t) := by
  induction t using squeezeSpaces.induct with
  | case1 rest ih =>
      rw [squeezeSpaces]
      generalize squeezeSpaces (' ' :: rest) = squeezed at ih ⊢
      generalize hspaced : ' ' :: rest = spaced at ih
      cases ih with
      | done => cases hspaced
      | keep c h =>
          obtain ⟨rfl, rfl⟩ := List.cons.inj hspaced
          exact Edited.write (show _ ∧ _ from ⟨⟨0, rfl⟩, rfl⟩) h
      | write hedit h =>
          obtain ⟨⟨n, rfl⟩, rfl⟩ := hedit
          exact Edited.write (show _ ∧ _ from ⟨⟨n + 1, rfl⟩, rfl⟩) h
  | case2 c rest hc ih =>
      rw [squeezeSpaces]
      · exact ih.keep c
      · exact hc
  | case3 => exact .done

theorem length_squeezeSpaces_le (t : Text) : (squeezeSpaces t).length ≤ t.length := by
  refine (edited_squeezeSpaces t).length_le ?_
  rintro _ _ ⟨⟨n, rfl⟩, rfl⟩
  rw [List.length_replicate]
  exact Nat.le_add_left 1 (n + 1)

end LinkAudit.Demangled
