import PacketFilter.Text.Lowercase

/-!
The case of ASCII letters makes no difference to lowercasing, not even where the neighbourhood of
a letter decides on its form: both forms of a letter are cased, and none is passed over.
-/

namespace PacketFilter.Text

/-- The ASCII letters that have another form. -/
def capitals : List Char :=
  "ABCDEFGHIJKLMNOPQRSTUVWXYZ".toList

theorem toLower_eq_or_mem (c : Char) : c.toLower = c ∨ c ∈ capitals := by
  have listed : ∀ code ≤ 90, 65 ≤ code → Char.ofNat code ∈ capitals := by
    decide
  unfold Char.toLower
  split
  · rename_i capital
    have found := listed c.toNat capital.2 capital.1
    rw [Char.ofNat_toNat] at found
    exact .inr found
  · exact .inl rfl

/-- What does not tell the capital letters from their small forms does not tell letter case. -/
theorem apply_toLower {α : Type} {f : Char → α}
    (same : (capitals.map fun c => f c.toLower) = capitals.map f) (c : Char) :
    f c.toLower = f c := by
  rcases toLower_eq_or_mem c with unchanged | capital
  · rw [unchanged]
  · exact List.map_inj_left.1 same c capital

theorem isBlank_toLower (c : Char) : isBlank c.toLower = isBlank c :=
  apply_toLower (by decide +kernel) c

theorem isCased_toLower (c : Char) : isCased c.toLower = isCased c :=
  apply_toLower (by decide +kernel) c

theorem isCaseIgnorable_toLower (c : Char) : isCaseIgnorable c.toLower = isCaseIgnorable c :=
  apply_toLower (by decide +kernel) c

theorem lowercaseChar_toLower (c : Char) : lowercaseChar c.toLower = lowercaseChar c :=
  apply_toLower (by decide +kernel) c

theorem toLower_eq_sigma_iff (c : Char) : c.toLower = 'Σ' ↔ c = 'Σ' := by
  have same : (c.toLower == 'Σ') = (c == 'Σ') :=
    apply_toLower (f := (· == 'Σ')) (by decide +kernel) c
  rw [← beq_iff_eq, same, beq_iff_eq]

theorem meetsCased_toLower (chars : List Char) :
    meetsCased (chars.map Char.toLower) = meetsCased chars := by
  induction chars with
  | nil => rfl
  | cons c chars inductionHypothesis =>
      unfold meetsCased at inductionHypothesis ⊢
      rw [List.map_cons, List.dropWhile_cons, List.dropWhile_cons, isCaseIgnorable_toLower]
      cases isCaseIgnorable c with
      | true => exact inductionHypothesis
      | false => exact isCased_toLower c

theorem lowercaseAfter_toLower (before chars : List Char) :
    lowercaseAfter (before.map Char.toLower) (chars.map Char.toLower) =
      lowercaseAfter before chars := by
  induction chars generalizing before with
  | nil => rfl
  | cons c chars inductionHypothesis =>
      have others := inductionHypothesis (c :: before)
      rw [List.map_cons] at others
      rw [List.map_cons, lowercaseAfter, lowercaseAfter, others, lowercaseSigma, lowercaseSigma,
        meetsCased_toLower, meetsCased_toLower, lowercaseChar_toLower]
      simp only [toLower_eq_sigma_iff]

theorem lowercase_toLower (chars : List Char) :
    lowercase (chars.map Char.toLower) = lowercase chars :=
  lowercaseAfter_toLower [] chars

end PacketFilter.Text
