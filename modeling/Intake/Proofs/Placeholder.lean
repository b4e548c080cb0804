import Intake.Proofs.FileStem

/-!
# Placeholders in filenames

The name that a table is given by its filename should not depend on the placeholders in it.
Placeholders are taken away after the extensions, however, and extensions begin at the first point
after which no line break comes, wherever that point stands. So it is the body of a placeholder that
decides. If every point of the body has a line break after it, in particular if the body has no
point, the placeholder goes and the name is the one of the filename without it. Otherwise the body
is cut at its first other point, what is left of the placeholder is not one any more, and its braces
become a part of the name (`sourceTableOfFilename?_of_placeholder`).
-/

namespace Intake

namespace FileStem

/-- The placeholder with a body. -/
def placeholder (body : String) : String := "\x7b\x7b" ++ body ++ "\x7d\x7d"

/-- A letter, a digit or an underscore. Beyond ASCII every character counts that is not blank, so
that the letters and digits of all scripts are among them. -/
def isWordChar (c : Char) : Bool :=
  if c.toNat < 0x80 then c.isAlphanum || c == '_' else !Text.isBlank c

/-- A name of letters, digits and underscores, with no underscores at its ends. -/
structure IsPlainName (name : String) : Prop where
  ne_empty : name ≠ ""
  word : ∀ c ∈ name.toList, isWordChar c = true
  ends : Text.TrimmedEnds (· == '_') name.toList

instance (name : String) : Decidable (IsPlainName name) :=
  decidable_of_iff (name ≠ "" ∧ name.toList.all isWordChar = true ∧
      name.toList.head? ≠ some '_' ∧ name.toList.getLast? ≠ some '_') <| by
    rw [List.all_eq_true]
    refine ⟨fun ⟨hne, hword, hhead, hlast⟩ => ⟨hne, hword, fun c hc => ?_, fun c hc => ?_⟩,
      fun h => ⟨h.ne_empty, h.word, fun hhead => ?_, fun hlast => ?_⟩⟩
    · exact beq_eq_false_iff_ne.2 fun heq => hhead (heq ▸ hc)
    · exact beq_eq_false_iff_ne.2 fun heq => hlast (heq ▸ hc)
    · exact absurd (h.ends.head '_' hhead) (by decide)
    · exact absurd (h.ends.last '_' hlast) (by decide)

/-- No extension begins inside of a text: every point of it has a line break after it. -/
def BreaksFollowPoints (cs : List Char) : Prop :=
  ∀ before after, cs = before ++ '.' :: after → '\n' ∈ after

variable {name body extension flow filename : String} {cs ds : List Char}

theorem toList_placeholder (body : String) :
    (placeholder body).toList = '\x7b' :: '\x7b' :: (body.toList ++ ['\x7d', '\x7d']) := by
  simp [placeholder]

/-! ## Extensions -/

theorem cutExtensions_eq_self_iff : cutExtensions cs = cs ↔ BreaksFollowPoints cs := by
  induction cs with
  | nil => simp [cutExtensions, BreaksFollowPoints]
  | cons c cs ih =>
    have hcons : BreaksFollowPoints (c :: cs) ↔
        (c = '.' → '\n' ∈ cs) ∧ BreaksFollowPoints cs := by
      constructor
      · intro h
        refine ⟨?_, fun before after hcs => h (c :: before) after (by rw [hcs]; rfl)⟩
        rintro rfl
        exact h [] cs rfl
      · rintro ⟨hc, hcs⟩ before after heq
        cases before with
        | nil =>
          obtain ⟨rfl, rfl⟩ := List.cons.inj heq
          exact hc rfl
        | cons b before => exact hcs before after (List.cons.inj heq).2
    rw [hcons, ← ih, cutExtensions]
    split
    · next hcut => exact iff_of_false (by simp) fun h => hcut.2 (h.1 hcut.1)
    · next hkept =>
      rw [List.cons_inj_right, and_iff_right]
      exact fun hc => by_contra fun hbreak => hkept ⟨hc, hbreak⟩

instance (cs : List Char) : Decidable (BreaksFollowPoints cs) :=
  decidable_of_iff _ cutExtensions_eq_self_iff

theorem breaksFollowPoints_of_not_mem (h : '.' ∉ cs) : BreaksFollowPoints cs := by
  rintro before after rfl
  simp at h

/-- What follows a text in which no extension begins is cut by itself. -/
theorem cutExtensions_append (h : BreaksFollowPoints cs) :
    cutExtensions (cs ++ ds) = cs ++ cutExtensions ds := by
  induction cs with
  | nil => rfl
  | cons c cs ih =>
    have hcs : BreaksFollowPoints cs := fun before after hcs =>
      h (c :: before) after (by rw [hcs]; rfl)
    have hkept : ¬ (c = '.' ∧ '\n' ∉ cs ++ ds) := by
      rintro ⟨rfl, hbreak⟩
      exact hbreak (List.mem_append_left ds (h [] cs rfl))
    rw [List.cons_append, cutExtensions, if_neg hkept, ih hcs]
    rfl

theorem BreaksFollowPoints.append (hcs : BreaksFollowPoints cs) (hds : BreaksFollowPoints ds) :
    BreaksFollowPoints (cs ++ ds) := by
  rw [← cutExtensions_eq_self_iff, cutExtensions_append hcs, cutExtensions_eq_self_iff.2 hds]

/-- An extension that begins in a text ends with what follows. -/
theorem cutExtensions_append_of_not (h : ¬ BreaksFollowPoints cs) (hds : '\n' ∉ ds) :
    cutExtensions (cs ++ ds) = cutExtensions cs := by
  rw [← cutExtensions_eq_self_iff] at h
  induction cs with
  | nil => exact absurd rfl h
  | cons c cs ih =>
    have hcut : c = '.' ∧ '\n' ∉ cs ++ ds ↔ c = '.' ∧ '\n' ∉ cs := by simp [hds]
    rw [cutExtensions] at h
    rw [List.cons_append, cutExtensions, cutExtensions, if_congr hcut rfl rfl]
    split
    · rfl
    · next hkept =>
      rw [if_neg hkept, List.cons_inj_right] at h
      rw [ih h]

/-- The last extension begins at the point that is followed by no other text. -/
theorem cutExtensions_append_extension (hds : '\n' ∉ ds) :
    cutExtensions (cs ++ '.' :: ds) = cutExtensions cs := by
  by_cases h : BreaksFollowPoints cs
  · rw [cutExtensions_append h, cutExtensions, if_pos ⟨rfl, hds⟩, List.append_nil,
      cutExtensions_eq_self_iff.2 h]
  · exact cutExtensions_append_of_not h (by simpa using hds)

/-- Only the end of an extension is trimmed, which is cut anyway. -/
theorem cutExtensions_trim (hne : cs ≠ []) (hhead : ∀ c ∈ cs.head?, Text.isBlank c = false)
    (hds : '\n' ∉ ds) (h : filename.toList = cs ++ '.' :: ds) :
    cutExtensions (Text.trim filename).toList = cutExtensions cs := by
  obtain ⟨as, bs, htrim, has, hbs⟩ := Text.exists_eq_append_stripEnds Text.isBlank filename.toList
  rw [← Text.toList_trim, h, List.append_assoc] at htrim
  obtain rfl : as = [] := by
    obtain ⟨c, cs, rfl⟩ := List.exists_cons_of_ne_nil hne
    cases as with
    | nil => rfl
    | cons a as =>
      obtain ⟨rfl, -⟩ := List.cons.inj htrim
      have hc := hhead c rfl
      simp [has c] at hc
  rw [List.nil_append] at htrim
  have hpoint : '.' ∉ bs := fun hmem => absurd (hbs _ hmem) (by decide)
  rcases List.append_eq_append_iff.1 htrim with ⟨es, htext, hes⟩ | ⟨es, -, rfl⟩
  · cases es with
    | nil =>
      rw [List.nil_append] at hes
      simp [← hes] at hpoint
    | cons e es =>
      obtain ⟨rfl, rfl⟩ := List.cons.inj hes
      rw [htext]
      exact cutExtensions_append_extension fun hmem => hds (List.mem_append_left bs hmem)
  · simp at hpoint

/-! ## Stems -/

theorem removePlaceholders_append (h : '\x7b' ∉ cs) :
    removePlaceholders (cs ++ ds) = cs ++ removePlaceholders ds := by
  induction cs with
  | nil => rfl
  | cons c cs ih =>
    rw [List.mem_cons, not_or] at h
    rw [List.cons_append, removePlaceholders.eq_2 c _ fun _ hc => absurd hc.symm h.1, ih h.2]
    rfl

/-- Without closing braces there is no placeholder. -/
theorem removePlaceholders_eq_self (h : '\x7d' ∉ cs) : removePlaceholders cs = cs := by
  induction cs using removePlaceholders.induct with
  | case1 body rest hrest _ _ =>
    obtain ⟨inner, rfl, -⟩ := afterPlaceholder?_eq_some_iff.1 hrest
    simp at h
  | case2 body hnone ih =>
    rw [removePlaceholders_of_none hnone, ih (mt (List.mem_cons_of_mem _) h)]
  | case3 c cs hc ih =>
    rw [removePlaceholders.eq_2 c cs hc, ih (mt (List.mem_cons_of_mem _) h)]
  | case4 => rw [removePlaceholders.eq_3]

theorem removePlaceholders_placeholder (hbody : '\x7d' ∉ body.toList) :
    removePlaceholders ((placeholder body).toList ++ ds) = removePlaceholders ds := by
  have hafter : afterPlaceholder? (body.toList ++ ['\x7d', '\x7d'] ++ ds) = some ds :=
    afterPlaceholder?_eq_some_iff.2 ⟨body.toList, by simp, hbody⟩
  rw [toList_placeholder]
  exact removePlaceholders_of_some hafter

theorem mem_stripEnds_iff {p : Char → Bool} {c : Char} (hc : p c = false) :
    c ∈ Text.stripEnds p cs ↔ c ∈ cs := by
  obtain ⟨as, bs, hcs, has, hbs⟩ := Text.exists_eq_append_stripEnds p cs
  conv_rhs => rw [hcs]
  have has : c ∉ as := fun hmem => by simp [has c hmem] at hc
  have hbs : c ∉ bs := fun hmem => by simp [hbs c hmem] at hc
  simp [has, hbs]

theorem stripEnds_append {p : Char → Bool} {as bs : List Char} (has : ∀ c ∈ as, p c = true)
    (hbs : ∀ c ∈ bs, p c = true) (hne : cs ≠ []) (hcs : Text.TrimmedEnds p cs) :
    Text.stripEnds p (as ++ cs ++ bs) = cs := by
  have hdrop : ∀ (rest : List Char) {l : List Char}, l ≠ [] → (∀ c ∈ l.head?, p c = false) →
      (l ++ rest).dropWhile p = l ++ rest := by
    intro rest l hl hhead
    obtain ⟨c, l, rfl⟩ := List.exists_cons_of_ne_nil hl
    exact List.dropWhile_cons_of_neg (by simp [hhead c rfl])
  have hlast : ∀ c ∈ cs.reverse.head?, p c = false := by simpa using hcs.last
  have hend : cs.reverse.dropWhile p = cs.reverse := by
    simpa using hdrop [] (by simpa using hne) hlast
  rw [Text.stripEnds, List.append_assoc, List.dropWhile_append_of_pos has, hdrop _ hne hcs.head,
    List.reverse_append, List.dropWhile_append_of_pos (by simpa using hbs), hend,
    List.reverse_reverse]

theorem isBlank_eq_false_of_isWordChar {c : Char} (h : isWordChar c = true) :
    Text.isBlank c = false := by
  have hascii : ∀ n < 0x80, isWordChar (Char.ofNat n) = true →
      Text.isBlank (Char.ofNat n) = false := by decide +kernel
  by_cases hc : c.toNat < 0x80
  · have hword := hascii c.toNat hc
    rw [Char.ofNat_toNat] at hword
    exact hword h
  · rw [isWordChar, if_neg hc] at h
    simpa using h

namespace IsPlainName

theorem not_mem (h : IsPlainName name) {d : Char} (hd : isWordChar d = false) :
    d ∉ name.toList := fun hmem => by simp [h.word d hmem] at hd

theorem trimmedEnds_isSeparator (h : IsPlainName name) :
    Text.TrimmedEnds isSeparator name.toList := by
  have hend : ∀ c ∈ name.toList, (c == '_') = false → isSeparator c = false := by
    intro c hc hunderscore
    have hne : ∀ d, isWordChar d = false → c ≠ d := fun d hd heq => h.not_mem hd (heq ▸ hc)
    simp [isSeparator, hunderscore, hne ' ' (by decide), hne '.' (by decide), hne '-' (by decide)]
  exact ⟨fun c hc => hend c (List.mem_of_mem_head? hc) (h.ends.head c hc),
    fun c hc => hend c (List.mem_of_mem_getLast? hc) (h.ends.last c hc)⟩

/-- A name with underscores beside it is its own stem. -/
theorem ofFilename_eq (h : IsPlainName name) {as bs : List Char} (has : ∀ c ∈ as, c = '_')
    (hbs : ∀ c ∈ bs, c = '_') (hremainder : remainder filename = as ++ name.toList ++ bs) :
    ofFilename filename = Text.lower name := by
  have hseparator : ∀ {cs : List Char}, (∀ c ∈ cs, c = '_') → ∀ c ∈ cs, isSeparator c = true := by
    intro cs hcs c hc
    rw [hcs c hc]
    rfl
  have hwildcard : ∀ c ∈ name.toList, (!isWildcard c) = true := by
    intro c hc
    have hne : ∀ d, isWordChar d = false → c ≠ d := fun d hd heq => h.not_mem hd (heq ▸ hc)
    simp [isWildcard, hne '*' (by decide), hne '?' (by decide)]
  have hcore : core filename = name.toList := by
    rw [core, hremainder, stripEnds_append (hseparator has) (hseparator hbs)
      (mt String.toList_eq_nil_iff.1 h.ne_empty) h.trimmedEnds_isSeparator,
      List.filter_eq_self.2 hwildcard, h.ends.stripEnds_eq]
  rw [← String.toList_inj, toList_ofFilename, hcore, Text.lower, String.toList_ofList]

end IsPlainName

/-! ## Filenames with a placeholder -/

theorem remainder_eq (hne : cs ≠ []) (hhead : ∀ c ∈ cs.head?, Text.isBlank c = false)
    (hds : '\n' ∉ ds) (h : filename.toList = cs ++ '.' :: ds) : remainder filename =
      (removePlaceholders (cutExtensions cs)).map fun c => if c = '-' then '_' else c := by
  rw [remainder, cutExtensions_trim hne hhead hds h]

theorem map_dashes_eq_self (h : '-' ∉ cs) :
    cs.map (fun c => if c = '-' then '_' else c) = cs := by
  conv_rhs => rw [← List.map_id cs]
  refine List.map_congr_left fun c hc => if_neg ?_
  rintro rfl
  exact h hc

/-- A text of word characters and dashes. -/
def IsPart (cs : List Char) : Prop := ∀ c ∈ cs, isWordChar c = true ∨ c = '-'

theorem IsPart.not_mem (h : IsPart cs) {d : Char} (hd : isWordChar d = false ∧ d ≠ '-') :
    d ∉ cs := by
  intro hmem
  rcases h d hmem with hword | hdash
  · simp [hd.1] at hword
  · exact hd.2 hdash

section

variable {before after : List Char}

theorem head_of_placeholder (hbefore : IsPart before) :
    ∀ c ∈ (before ++ (placeholder body).toList ++ after).head?, Text.isBlank c = false := by
  intro c hc
  cases before with
  | nil =>
    rw [toList_placeholder] at hc
    cases hc
    decide
  | cons b before =>
    cases hc
    rcases hbefore c List.mem_cons_self with hword | rfl
    · exact isBlank_eq_false_of_isWordChar hword
    · decide

/-- A placeholder goes when no extension begins in its body. -/
theorem remainder_of_breaksFollowPoints (hbefore : IsPart before) (hafter : IsPart after)
    (hbody : '\x7d' ∉ body.toList) (hbreaks : BreaksFollowPoints body.toList) (hds : '\n' ∉ ds)
    (h : filename.toList = before ++ (placeholder body).toList ++ after ++ '.' :: ds) :
    remainder filename = (before ++ after).map fun c => if c = '-' then '_' else c := by
  have hkept : BreaksFollowPoints (before ++ (placeholder body).toList ++ after) := by
    have hbraces : BreaksFollowPoints (placeholder body).toList := by
      have hopening : BreaksFollowPoints ['\x7b', '\x7b'] :=
        breaksFollowPoints_of_not_mem (by decide)
      rw [toList_placeholder]
      exact hopening.append (hbreaks.append (breaksFollowPoints_of_not_mem (by decide)))
    have hplain : ∀ {part : List Char}, IsPart part → BreaksFollowPoints part := fun hpart =>
      breaksFollowPoints_of_not_mem (hpart.not_mem (by decide))
    exact ((hplain hbefore).append hbraces).append (hplain hafter)
  rw [remainder_eq (by simp [toList_placeholder]) (head_of_placeholder hbefore) hds h,
    cutExtensions_eq_self_iff.2 hkept, List.append_assoc,
    removePlaceholders_append (hbefore.not_mem (by decide)), removePlaceholders_placeholder hbody,
    ← List.append_nil after, removePlaceholders_append (hafter.not_mem (by decide)),
    removePlaceholders.eq_3, List.append_nil]

/-- A brace is left when an extension begins in the body of a placeholder. -/
theorem brace_mem_remainder (hbefore : IsPart before) (hafter : IsPart after)
    (hbody : '\x7d' ∉ body.toList) (hbreaks : ¬ BreaksFollowPoints body.toList) (hds : '\n' ∉ ds)
    (h : filename.toList = before ++ (placeholder body).toList ++ after ++ '.' :: ds) :
    '\x7b' ∈ remainder filename := by
  have hcut : cutExtensions (before ++ (placeholder body).toList ++ after) =
      before ++ '\x7b' :: '\x7b' :: cutExtensions body.toList := by
    have hopening : BreaksFollowPoints (before ++ ['\x7b', '\x7b']) :=
      (breaksFollowPoints_of_not_mem (hbefore.not_mem (by decide))).append
        (breaksFollowPoints_of_not_mem (by decide))
    have hrest : '\n' ∉ '\x7d' :: '\x7d' :: after := by
      simp [hafter.not_mem (d := '\n') (by decide)]
    have hsplit : before ++ (placeholder body).toList ++ after =
        before ++ ['\x7b', '\x7b'] ++ (body.toList ++ '\x7d' :: '\x7d' :: after) := by
      simp [toList_placeholder]
    rw [hsplit, cutExtensions_append hopening, cutExtensions_append_of_not hbreaks hrest]
    simp
  have hclosing : '\x7d' ∉ before ++ '\x7b' :: '\x7b' :: cutExtensions body.toList := by
    have hbody : '\x7d' ∉ cutExtensions body.toList :=
      fun hmem => hbody ((cutExtensions_isPrefix _).subset hmem)
    simp [hbefore.not_mem (d := '\x7d') (by decide), hbody]
  rw [remainder_eq (by simp [toList_placeholder]) (head_of_placeholder hbefore) hds h, hcut,
    removePlaceholders_eq_self hclosing]
  exact List.mem_map.2 ⟨'\x7b', by simp, by decide⟩

end

end FileStem

open FileStem

theorem mem_withFlowPrefix_iff {name flow : String} {d : Char} (hd : Text.IsMark d)
    (hne : d ≠ '_') :
    d ∈ (withFlowPrefix name flow).toList ↔ d ∈ flow.toList ∨ d ∈ name.toList := by
  unfold withFlowPrefix
  dsimp only
  split
  · next after hdrop =>
    have hlower := dropStart?_flowPrefix_eq_some_iff.1 hdrop
    rw [Text.mem_lower_iff hd, or_iff_right_of_imp]
    intro hflow
    rw [← Text.mem_lower_iff hd, hlower]
    simp [hflow]
  · simp [flowPrefix, Text.mem_lower_iff hd, hne]

theorem sourceTableOfFilename?_eq_some {filename flow name : String} (hne : name ≠ "")
    (h : ofFilename filename = Text.lower name) :
    sourceTableOfFilename? filename flow = some (withFlowPrefix name flow) := by
  have hlower : Text.lower name ≠ "" := mt Text.lower_eq_empty_iff.1 hne
  have hsame : withFlowPrefix (Text.lower name) flow = withFlowPrefix name flow := by
    unfold withFlowPrefix
    rw [Text.lower_lower]
  rw [sourceTableOfFilename?, h, if_neg hlower, hsame]

/-- A brace that is left in a filename gets into the name. -/
theorem exists_brace_mem_sourceTable {filename : String} (flow : String)
    (h : '\x7b' ∈ remainder filename) : ∃ table,
      sourceTableOfFilename? filename flow = some table ∧ '\x7b' ∈ table.toList := by
  have hstem : '\x7b' ∈ (ofFilename filename).toList := by
    rw [toList_ofFilename, Text.mem_lowerAfter_iff (by decide), core, mem_stripEnds_iff (by decide),
      List.mem_filter, mem_stripEnds_iff (by decide)]
    exact ⟨h, by decide⟩
  have hne : ofFilename filename ≠ "" := by
    intro hempty
    simp [hempty] at hstem
  refine ⟨_, sourceTableOfFilename?_eq_some hne (stems_ofFilename hne).lower_eq.symm, ?_⟩
  exact (mem_withFlowPrefix_iff (by decide) (by decide)).2 (.inr hstem)

/-- A name beside a placeholder, from which only dashes divide it. -/
theorem sourceTableOfFilename?_of_parts (before after as bs : List Char)
    {body name filename : String} {extension : List Char} (hbody : '\x7d' ∉ body.toList)
    (hname : IsPlainName name) (hextension : '\n' ∉ extension) (hbefore : IsPart before)
    (hafter : IsPart after) (has : ∀ c ∈ as, c = '_') (hbs : ∀ c ∈ bs, c = '_')
    (hparts : (before ++ after).map (fun c => if c = '-' then '_' else c) = as ++ name.toList ++ bs)
    (h : filename.toList = before ++ (placeholder body).toList ++ after ++ '.' :: extension)
    (flow : String) :
    (BreaksFollowPoints body.toList →
      sourceTableOfFilename? filename flow = some (withFlowPrefix name flow)) ∧
    (¬ BreaksFollowPoints body.toList → ∃ table, sourceTableOfFilename? filename flow = some table ∧
      '\x7b' ∈ table.toList ∧ ('\x7b' ∉ flow.toList → table ≠ withFlowPrefix name flow)) := by
  refine ⟨fun hbreaks => ?_, fun hbreaks => ?_⟩
  · have hremainder := remainder_of_breaksFollowPoints hbefore hafter hbody hbreaks hextension h
    exact sourceTableOfFilename?_eq_some hname.ne_empty
      (hname.ofFilename_eq has hbs (hremainder.trans hparts))
  · obtain ⟨table, htable, hbrace⟩ := exists_brace_mem_sourceTable flow
      (brace_mem_remainder hbefore hafter hbody hbreaks hextension h)
    refine ⟨table, htable, hbrace, ?_⟩
    rintro hflow rfl
    exact ((mem_withFlowPrefix_iff (by decide) (by decide)).1 hbrace).elim hflow
      (hname.not_mem (by decide))

/-- The name from a filename with a placeholder before or after it, of any body and in any flow.

The placeholder does not influence the name when every point of the body has a line break after it,
as for a body without points. Otherwise it is not taken away: the derived name has a brace in it,
and is another one than without the placeholder, unless the name of the flow has braces itself. -/
theorem sourceTableOfFilename?_of_placeholder {body name extension : String}
    (hbody : '\x7d' ∉ body.toList) (hname : IsPlainName name) (hextension : '\n' ∉ extension.toList)
    (flow : String) :
    sourceTableOfFilename? (name ++ "." ++ extension) flow = some (withFlowPrefix name flow) ∧
    ∀ filename ∈ [placeholder body ++ "-" ++ name ++ "." ++ extension,
        name ++ "-" ++ placeholder body ++ "." ++ extension],
      (BreaksFollowPoints body.toList →
        sourceTableOfFilename? filename flow = some (withFlowPrefix name flow)) ∧
      (¬ BreaksFollowPoints body.toList → ∃ table,
        sourceTableOfFilename? filename flow = some table ∧ '\x7b' ∈ table.toList ∧
          ('\x7b' ∉ flow.toList → table ≠ withFlowPrefix name flow)) := by
  have hdash : '-' ∉ name.toList := hname.not_mem (by decide)
  have hword : IsPart name.toList := fun c hc => .inl (hname.word c hc)
  have hunderscore : ∀ c ∈ ['_'], c = '_' := fun c hc => List.mem_singleton.1 hc
  refine ⟨?_, List.forall_mem_cons.2 ⟨?_, List.forall_mem_singleton.2 ?_⟩⟩
  · have hhead : ∀ c ∈ name.toList.head?, Text.isBlank c = false := fun c hc =>
      isBlank_eq_false_of_isWordChar (hname.word c (List.mem_of_mem_head? hc))
    have hremainder : remainder (name ++ "." ++ extension) = name.toList := by
      rw [remainder_eq (mt String.toList_eq_nil_iff.1 hname.ne_empty) hhead
        hextension (by simp), cutExtensions_eq_self_iff.2
        (breaksFollowPoints_of_not_mem (hname.not_mem (by decide))),
        removePlaceholders_eq_self (hname.not_mem (by decide)), map_dashes_eq_self hdash]
    exact sourceTableOfFilename?_eq_some hname.ne_empty
      (hname.ofFilename_eq (List.forall_mem_nil _) (List.forall_mem_nil _) (by simp [hremainder]))
  · refine sourceTableOfFilename?_of_parts [] ('-' :: name.toList) ['_'] [] hbody hname hextension
      (by simp [IsPart]) ?_ hunderscore (by simp) ?_ (by simp) flow
    · exact List.forall_mem_cons.2 ⟨.inr rfl, hword⟩
    · simp [map_dashes_eq_self hdash]
  · refine sourceTableOfFilename?_of_parts (name.toList ++ ['-']) [] [] ['_'] hbody hname hextension
      ?_ (by simp [IsPart]) (by simp) hunderscore ?_ (by simp) flow
    · exact List.forall_mem_append.2 ⟨hword, by simp⟩
    · simp [map_dashes_eq_self hdash]

/-- A body without a point, before and after the name. -/
theorem sourceTableOfFilename?_of_placeholder_filter :
    '\x7d' ∉ " ds | replace('-', '') ".toList ∧ IsPlainName "Order_Lines" ∧
    '\n' ∉ "2024.csv".toList ∧ BreaksFollowPoints " ds | replace('-', '') ".toList ∧
    ∀ filename ∈
      [placeholder " ds | replace('-', '') " ++ "-" ++ "Order_Lines" ++ "." ++ "2024.csv",
        "Order_Lines" ++ "-" ++ placeholder " ds | replace('-', '') " ++ "." ++ "2024.csv"],
      sourceTableOfFilename? filename "sales" = some "sales_order_lines" := by
  have hbody : '\x7d' ∉ " ds | replace('-', '') ".toList := by decide +kernel
  have hname : IsPlainName "Order_Lines" := by decide +kernel
  have hextension : '\n' ∉ "2024.csv".toList := by decide +kernel
  have hbreaks : BreaksFollowPoints " ds | replace('-', '') ".toList := by decide +kernel
  have htable : withFlowPrefix "Order_Lines" "sales" = "sales_order_lines" := by decide +kernel
  obtain ⟨-, hfilenames⟩ :=
    sourceTableOfFilename?_of_placeholder hbody hname hextension "sales"
  refine ⟨hbody, hname, hextension, hbreaks, fun filename hfilename => ?_⟩
  rw [← htable]
  exact (hfilenames filename hfilename).1 hbreaks

/-- A body with a point leads to names of its own, and to two different ones. -/
theorem placeholder_with_point :
    '\x7d' ∉ " ds.date ".toList ∧ IsPlainName "orders" ∧ '\n' ∉ "csv".toList ∧
    sourceTableOfFilename? "orders.csv" "sales" = some "sales_orders" ∧
    sourceTableOfFilename? (placeholder " ds.date " ++ "-orders.csv") "sales" =
      some "sales_\x7b\x7b ds" ∧
    sourceTableOfFilename? ("orders-" ++ placeholder " ds.date " ++ ".csv") "sales" =
      some "sales_orders_\x7b\x7b ds" := by
  decide +kernel

end Intake
