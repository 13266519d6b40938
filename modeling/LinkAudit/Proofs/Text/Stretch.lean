import LinkAudit.Text.Basic

/-!
Stretches of a class of characters. Taking and dropping the characters of a class cuts a text behind
its longest stretch, and no other cut has a longest stretch in front. On the reversed text they cut
before the longest stretch that the text ends in.
-/

namespace LinkAudit.Text

/-- Whether `stretch` holds characters of the class only and `after` does not begin with one, so
that the stretch cannot be made longer. -/
structure IsStretch (p : Char → Bool) (stretch after : Text) : Prop where
  inside : ∀ c ∈ stretch, p c = true
  ends : ∀ c ∈ after.head?, p c = false

variable {p : Char → Bool} {stretch after : Text}

theorem isStretch_takeWhile (p : Char → Bool) (t : Text) :
    IsStretch p (t.takeWhile p) (t.dropWhile p) where
  inside c hc := List.all_eq_true.mp List.all_takeWhile c hc
  ends := by
    intro c hc
    have hhead := List.head?_dropWhile_not p t
    rw [Option.mem_def.mp hc] at hhead
    simpa using hhead

theorem isStretch_before_cons {c : Char} (h : ∀ d ∈ stretch, p d = true) (hc : p c = false)
    (rest : Text) : IsStretch p stretch (c :: rest) where
  inside := h
  ends d hd := by rwa [← Option.some.inj hd]

/-- The longest stretch from a character of the class on. -/
theorem isStretch_cons_takeWhile {c : Char} (hc : p c = true) (rest : Text) :
    IsStretch p (c :: rest.takeWhile p) (rest.dropWhile p) := by
  have h := isStretch_takeWhile p (c :: rest)
  rwa [List.takeWhile_cons_of_pos hc, List.dropWhile_cons_of_pos hc] at h

theorem IsStretch.takeWhile_append (h : IsStretch p stretch after) :
    (stretch ++ after).takeWhile p = stretch := by
  have hafter : after.takeWhile p = [] := by
    cases after with
    | nil => rfl
    | cons c rest => exact List.takeWhile_cons_of_neg (by simp [h.ends c rfl])
  rw [List.takeWhile_append_of_pos h.inside, hafter, List.append_nil]

theorem IsStretch.dropWhile_append (h : IsStretch p stretch after) :
    (stretch ++ after).dropWhile p = after := by
  rw [List.dropWhile_append_of_pos h.inside]
  cases after with
  | nil => rfl
  | cons c rest => exact List.dropWhile_cons_of_neg (by simp [h.ends c rfl])

/-- What comes later does not matter where the end of the stretch can be seen without it. -/
theorem IsStretch.append (h : IsStretch p stretch after) {more : Text}
    (hmore : after = [] → ∀ c ∈ more.head?, p c = false) : IsStretch p stretch (after ++ more) where
  inside := h.inside
  ends := by
    cases after with
    | nil => exact hmore rfl
    | cons c rest => exact h.ends

/-- Behind a cut there is no longer a stretch than in front of it. -/
theorem IsStretch.take (h : IsStretch p stretch after) (n : Nat) :
    IsStretch p (stretch.take n) (after.take (n - stretch.length)) where
  inside c hc := h.inside c (List.mem_of_mem_take hc)
  ends c hc := by
    rw [List.head?_take] at hc
    split at hc
    · cases hc
    · exact h.ends c hc

theorem takeWhile_dropWhile_append {t : Text} (more : Text)
    (hmore : t.dropWhile p = [] → ∀ c ∈ more.head?, p c = false) :
    (t ++ more).takeWhile p = t.takeWhile p ∧ (t ++ more).dropWhile p = t.dropWhile p ++ more := by
  have hstretch := (isStretch_takeWhile p t).append hmore
  have hwhole : t.takeWhile p ++ (t.dropWhile p ++ more) = t ++ more := by
    rw [← List.append_assoc, List.takeWhile_append_dropWhile]
  rw [← hwhole]
  exact ⟨hstretch.takeWhile_append, hstretch.dropWhile_append⟩

/-- A text is cut behind its longest stretch in one way only. -/
theorem IsStretch.unique {stretch' after' : Text} (h : IsStretch p stretch after)
    (h' : IsStretch p stretch' after') (heq : stretch ++ after = stretch' ++ after') :
    stretch = stretch' ∧ after = after' := by
  rw [← h.takeWhile_append, ← h'.takeWhile_append, heq]
  exact ⟨rfl, by rw [← h.dropWhile_append, ← h'.dropWhile_append, heq]⟩

/-- Whether `tail` holds characters of the class only and `before` does not end in one, so that it
is the longest stretch at the end of both. -/
structure IsTail (p : Char → Bool) (before tail : Text) : Prop where
  inside : ∀ c ∈ tail, p c = true
  begins : ∀ c ∈ before.getLast?, p c = false

variable {before tail : Text}

theorem IsTail.isStretch_reverse (h : IsTail p before tail) :
    IsStretch p tail.reverse before.reverse where
  inside c hc := h.inside c (List.mem_reverse.mp hc)
  ends := by
    rw [List.head?_reverse]
    exact h.begins

theorem IsTail.takeWhile_reverse (h : IsTail p before tail) :
    (before ++ tail).reverse.takeWhile p = tail.reverse := by
  rw [List.reverse_append, h.isStretch_reverse.takeWhile_append]

theorem IsTail.dropWhile_reverse (h : IsTail p before tail) :
    (before ++ tail).reverse.dropWhile p = before.reverse := by
  rw [List.reverse_append, h.isStretch_reverse.dropWhile_append]

/-- Every text ends in such a stretch, which may be empty. -/
theorem exists_isTail (p : Char → Bool) (t : Text) :
    ∃ before tail, before ++ tail = t ∧ IsTail p before tail := by
  have hstretch := isStretch_takeWhile p t.reverse
  refine ⟨(t.reverse.dropWhile p).reverse, (t.reverse.takeWhile p).reverse, ?_, ?_, ?_⟩
  · rw [← List.reverse_append, List.takeWhile_append_dropWhile, List.reverse_reverse]
  · exact fun c hc => hstretch.inside c (List.mem_reverse.mp hc)
  · rw [List.getLast?_reverse]
    exact hstretch.ends

end LinkAudit.Text
