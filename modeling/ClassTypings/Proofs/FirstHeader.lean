import ClassTypings.Proofs.ClassHeader
/-!
# The first header of a text

Which header gives the name of the class, said of the text alone: the earliest one on the earliest
line that leads to one.
-/
namespace ClassTypings.ClassHeader

private theorem startsLine_getLast?_iff {above : Text} :
    startsLine above.getLast? ↔ above = [] ∨ ['\n'] <:+ above := by
  constructor
  · intro h
    cases hlast : above.getLast? with
    | none => exact .inl (List.getLast?_eq_none_iff.mp hlast)
    | some c =>
      obtain ⟨front, rfl⟩ := List.getLast?_eq_some_iff.mp hlast
      obtain rfl : c = '\n' := by simpa [startsLine] using h
      exact .inr (List.suffix_append _ _)
  · rintro (rfl | ⟨front, rfl⟩)
    · rfl
    · simp [startsLine]

private theorem exists_nameAt?_iff {t : Text} :
    (∃ name rest, nameAt? t = some (name, rest)) ↔ Header t := by
  constructor
  · rintro ⟨name, rest, hread⟩
    exact header_of_nameAt? hread
  · rintro ⟨gap, name, rest, hgap, hname, rfl⟩
    obtain ⟨word, u, hrun⟩ := exists_run?_name hname rest
    refine ⟨word, u, ?_⟩
    simp only [nameAt?, Option.bind_eq_bind, Text.after?_append, Option.bind_some,
      run?_gap hgap (hname.head rest), hrun]

private theorem nameAt?_eq_none_iff {t : Text} : nameAt? t = none ↔ ¬ Header t := by
  rw [← exists_nameAt?_iff, Option.eq_none_iff_forall_ne_some]
  simp

/-- A line leads to a header: behind the text above the line, only small letters and spaces stand
in front of the header. -/
structure LineLeads (t above lead header : Text) : Prop where
  split : t = above ++ (lead ++ header)
  opens : above = [] ∨ ['\n'] <:+ above
  clear : ∀ c ∈ lead, isLead c
  isHeader : Header header

/-- The line is the earliest one that leads to a header, and the header the earliest one to which
it leads. -/
structure LineLeadsFirst (t above lead header : Text) : Prop extends
    LineLeads t above lead header where
  line_first : ∀ {above' lead' header'}, LineLeads t above' lead' header' →
    above.length ≤ above'.length
  header_first : ∀ {lead' header'}, LineLeads t above lead' header' →
    lead.length ≤ lead'.length

private theorem nameOnLine?_eq_none_iff {line : Text} :
    nameOnLine? line = none ↔
      ∀ lead header, line = lead ++ header → (∀ c ∈ lead, isLead c) → ¬ Header header := by
  induction line with
  | nil =>
    have hnil : ¬ Header [] := nameAt?_eq_none_iff.mp rfl
    simp [nameOnLine?, hnil]
  | cons c line ih =>
    constructor
    · intro h lead header hline hclear
      cases lead with
      | nil =>
        obtain rfl : c :: line = header := hline
        rw [← nameAt?_eq_none_iff]
        rw [nameOnLine?] at h
        split at h
        · simp at h
        · assumption
      | cons d lead =>
        obtain ⟨rfl, rfl⟩ := List.cons.inj hline
        have hlater : nameOnLine? (lead ++ header) = none := by
          rw [nameOnLine?] at h
          split at h
          · simp at h
          · rwa [if_pos (hclear c List.mem_cons_self)] at h
        exact ih.mp hlater lead header rfl fun e he => hclear e (List.mem_cons_of_mem _ he)
    · intro h
      have hhere := nameAt?_eq_none_iff.mpr (h [] _ rfl (by simp))
      rw [nameOnLine?, hhere]
      dsimp only
      split
      · rename_i hc
        refine ih.mpr fun lead header hline hclear => h (c :: lead) header (by simp [hline]) ?_
        simpa [hc] using hclear
      · rfl

private theorem name?_eq_none_iff {t : Text} :
    name? t = none ↔ ¬ ∃ above lead header, LineLeads t above lead header := by
  rw [name?, Text.firstReading_eq_none_iff]
  simp only [Option.or_none, startsLine_getLast?_iff, nameOnLine?_eq_none_iff]
  constructor
  · rintro h ⟨above, lead, header, hleads⟩
    exact h above _ hleads.split hleads.opens lead header rfl hleads.clear hleads.isHeader
  · intro h above line hsplit hopens lead header hline hclear hheader
    exact h ⟨above, lead, header, hline ▸ hsplit, hopens, hclear, hheader⟩

private theorem exists_append_of_length_lt {u v u' v' : Text} (h : u ++ v = u' ++ v')
    (hlt : u'.length < u.length) : ∃ w, w ≠ [] ∧ u = u' ++ w ∧ v' = w ++ v := by
  rcases List.append_eq_append_iff.mp h with ⟨w, rfl, rfl⟩ | ⟨w, rfl, rfl⟩
  · rw [List.length_append] at hlt
    omega
  · refine ⟨w, ?_, rfl, rfl⟩
    rintro rfl
    rw [List.append_nil] at hlt
    omega

private theorem passed_nameOnLine?_iff {above line : Text} :
    Text.Passed startsLine nameOnLine? none above line ↔
      ∀ {above' lead header}, LineLeads (above ++ line) above' lead header →
        above.length ≤ above'.length := by
  constructor
  · intro h above' lead header hleads
    by_contra hlt
    obtain ⟨w, hw, rfl, hline⟩ := exists_append_of_length_lt hleads.split (Nat.lt_of_not_le hlt)
    have hopens : startsLine (above'.getLast?.or none) := by
      rw [Option.or_none]
      exact startsLine_getLast?_iff.mpr hleads.opens
    exact nameOnLine?_eq_none_iff.mp (h above' w rfl hw hopens) lead header hline.symm hleads.clear
      hleads.isHeader
  · rintro h above' w rfl hw hopens
    rw [Option.or_none] at hopens
    rw [nameOnLine?_eq_none_iff]
    intro lead header hline hclear hheader
    have hle := @h above' lead header ⟨by rw [← hline, List.append_assoc],
      startsLine_getLast?_iff.mp hopens, hclear, hheader⟩
    have := List.length_pos_iff.mpr hw
    rw [List.length_append] at hle
    omega

private theorem silent_nameAt?_iff {above lead header : Text}
    (hopens : above = [] ∨ ['\n'] <:+ above)
    (hclear : ∀ c ∈ lead, isLead c) :
    Text.Silent nameAt? lead header ↔
      ∀ {lead' header'}, LineLeads (above ++ (lead ++ header)) above lead' header' →
        lead.length ≤ lead'.length := by
  rw [Text.silent_iff]
  constructor
  · intro h lead' header' hleads
    by_contra hlt
    obtain ⟨w, hw, rfl, rfl⟩ := exists_append_of_length_lt (List.append_cancel_left hleads.split)
      (Nat.lt_of_not_le hlt)
    exact nameAt?_eq_none_iff.mp (h lead' w rfl hw) hleads.isHeader
  · rintro h lead' w rfl hw
    rw [nameAt?_eq_none_iff]
    intro hheader
    have hle := @h lead' _ ⟨by rw [List.append_assoc], hopens,
      fun c hc => hclear c (List.mem_append_left _ hc), hheader⟩
    have := List.length_pos_iff.mpr hw
    rw [List.length_append] at hle
    omega

/-- The header that names the class is the first one to which a line leads. -/
private theorem exists_nameStands_iff {t name : Text} :
    (∃ front header, t = front ++ header ∧ NameStands front header name) ↔
      ∃ above lead header rest, LineLeadsFirst t above lead header ∧
        nameAt? header = some (name, rest) := by
  constructor
  · rintro ⟨front, header, rfl, above, lead, rest, rfl, hpassed, hopens, hclear, hsilent, hread⟩
    have hopens := startsLine_getLast?_iff.mp hopens
    rw [List.append_assoc]
    exact ⟨above, lead, header, rest, ⟨⟨rfl, hopens, hclear, header_of_nameAt? hread⟩,
      passed_nameOnLine?_iff.mp hpassed, (silent_nameAt?_iff hopens hclear).mp hsilent⟩, hread⟩
  · rintro ⟨above, lead, header, rest, ⟨⟨rfl, hopens, hclear, -⟩, hline, hheader⟩, hread⟩
    exact ⟨above ++ lead, header, (List.append_assoc _ _ _).symm, above, lead, rest, rfl,
      passed_nameOnLine?_iff.mpr hline, startsLine_getLast?_iff.mpr hopens, hclear,
      (silent_nameAt?_iff hopens hclear).mpr hheader, hread⟩

/-- A text has no class name exactly when no line leads to a header. Otherwise the name is what
follows the word and the blanks of the first header, as far as the characters of a name go. -/
theorem name?_of_first_header (t : Text) :
    (name? t = none ↔ ¬ ∃ above lead header, LineLeads t above lead header) ∧
      ∀ name, name? t = some name ↔
        ∃ above lead gap rest,
          LineLeadsFirst t above lead ("class".toList ++ (gap ++ (name ++ rest))) ∧
            IsGap gap ∧ IsName name ∧ ∀ c, rest.head? = some c → ¬ isNameChar c := by
  refine ⟨name?_eq_none_iff, fun name => ?_⟩
  rw [name?_eq_some_iff, exists_nameStands_iff]
  constructor
  · rintro ⟨above, lead, header, rest, hfirst, hread⟩
    obtain ⟨gap, hgap, hname, hends, rfl⟩ := nameAt?_eq_some_iff.mp hread
    exact ⟨above, lead, gap, rest, hfirst, hgap, hname, hends⟩
  · rintro ⟨above, lead, gap, rest, hfirst, hgap, hname, hends⟩
    exact ⟨above, lead, _, rest, hfirst, nameAt?_eq_some_iff.mpr ⟨gap, hgap, hname, hends, rfl⟩⟩

example : name? "<?php\nsubclass class X\n".toList = some "class".toList := by decide

end ClassTypings.ClassHeader
