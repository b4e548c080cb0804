import Mathlib.Data.List.Chain
import Intake.Proofs.Casing

/-!
# Stems of filenames

What a name that is derived from the pattern of a table's files is made of. Its stem is never empty,
is in lower case, and has no wildcards, no dashes and no underscores at its ends. A clean stem
(`FileStem.IsClean`) has no point, no placeholder and no blanks at its ends either, and most stems
are clean. The others come from three kinds of filenames: a point stays when a line break follows it
somewhere; a placeholder may arise when what stands between its braces is taken away
(`FileStem.KeepsBraces`); and a blank may come to an end when the wildcard beside it is taken away,
or stays there because only spaces are stripped (`FileStem.SpacesInside`).
`exists_stem_of_sourceTableOfFilename?` says that nothing else leads to a stem that is not clean.
-/

namespace Intake

namespace FileStem

/-- A text contains a placeholder: two opening braces, a body without a closing brace, and two
closing braces. -/
def HasPlaceholder (cs : List Char) : Prop :=
  ∃ before body after,
    cs = before ++ '\x7b' :: '\x7b' :: (body ++ '\x7d' :: '\x7d' :: after) ∧ '\x7d' ∉ body

/-- A stem as the name of a table should have it. -/
structure IsClean (stem : String) : Prop where
  ne_empty : stem ≠ ""
  lower_eq : Text.lower stem = stem
  no_wildcard : ∀ c ∈ stem.toList, isWildcard c = false
  no_dash : '-' ∉ stem.toList
  no_point : '.' ∉ stem.toList
  no_placeholder : ¬ HasPlaceholder stem.toList
  ends : Text.TrimmedEnds (fun c => isSeparator c || Text.isBlank c) stem.toList

/-- What is left of a filename without extensions and placeholders, with underscores for dashes. -/
def remainder (filename : String) : List Char :=
  (removePlaceholders (cutExtensions (Text.trim filename).toList)).map
    fun c => if c = '-' then '_' else c

/-- The stem of a filename before it is lower-cased. -/
def core (filename : String) : List Char :=
  Text.stripEnds (· == '_')
    ((Text.stripEnds isSeparator (remainder filename)).filter fun c => !isWildcard c)

/-- Neighbours that do not bring braces together: no wildcard stands after a brace, and no
opening brace after a closing one. -/
def KeepsBraces (a b : Char) : Prop :=
  (a = '\x7b' ∨ a = '\x7d' → isWildcard b = false) ∧ (a = '\x7d' → b ≠ '\x7b')

instance (a b : Char) : Decidable (KeepsBraces a b) :=
  inferInstanceAs (Decidable ((a = '\x7b' ∨ a = '\x7d' → isWildcard b = false) ∧
    (a = '\x7d' → b ≠ '\x7b')))

/-- All blanks of a text are spaces, and but for underscores none stands beside a wildcard. -/
structure SpacesInside (cs : List Char) : Prop where
  space : ∀ c ∈ cs, Text.isBlank c = true → c = ' '
  apart : (cs.filter (· != '_')).IsChain fun a b =>
    ¬ (Text.isBlank a = true ∧ isWildcard b = true) ∧
      ¬ (isWildcard a = true ∧ Text.isBlank b = true)

instance (cs : List Char) : Decidable (SpacesInside cs) :=
  decidable_of_iff (cs.all (fun c => decide (Text.isBlank c = true → c = ' ')) = true ∧
      (cs.filter (· != '_')).IsChain fun a b =>
        ¬ (Text.isBlank a = true ∧ isWildcard b = true) ∧
          ¬ (isWildcard a = true ∧ Text.isBlank b = true)) <| by
    simp only [List.all_eq_true, decide_eq_true_eq]
    exact ⟨fun h => ⟨h.1, h.2⟩, fun h => ⟨h.space, h.apart⟩⟩

variable {filename stem : String} {cs : List Char}

theorem toList_ofFilename (filename : String) :
    (ofFilename filename).toList = Text.lowerAfter [] (core filename) := by
  simp only [ofFilename, Text.lower, String.toList_ofList]
  rfl

/-! ## Extensions -/

theorem cutExtensions_isPrefix (cs : List Char) : cutExtensions cs <+: cs := by
  induction cs with
  | nil => exact List.prefix_rfl
  | cons c cs ih =>
    unfold cutExtensions
    split
    · exact List.nil_prefix
    · exact List.cons_prefix_cons.2 ⟨rfl, ih⟩

/-- Only a point that a line break follows is not cut. -/
theorem not_mem_cutExtensions (h : cs.Pairwise fun a b => a = '.' → b ≠ '\n') :
    '.' ∉ cutExtensions cs := by
  induction cs with
  | nil => simp [cutExtensions]
  | cons c cs ih =>
    obtain ⟨hc, hcs⟩ := List.pairwise_cons.1 h
    unfold cutExtensions
    split
    · simp
    · next hkept =>
      rw [List.mem_cons, not_or]
      refine ⟨?_, ih hcs⟩
      rintro rfl
      exact hkept ⟨rfl, fun hbreak => hc _ hbreak rfl rfl⟩

/-! ## Placeholders -/

theorem afterPlaceholder?_eq_some_iff {rest : List Char} : afterPlaceholder? cs = some rest ↔
    ∃ body, cs = body ++ '\x7d' :: '\x7d' :: rest ∧ '\x7d' ∉ body := by
  constructor
  · intro h
    unfold afterPlaceholder? at h
    split at h
    · next r hdrop =>
      cases h
      refine ⟨cs.takeWhile (· != '\x7d'), ?_, fun hmem => ?_⟩
      · rw [← hdrop, List.takeWhile_append_dropWhile]
      · simpa using List.mem_takeWhile_imp hmem
    · simp at h
  · rintro ⟨body, rfl, hbody⟩
    have hall : ∀ c ∈ body, (c != '\x7d') = true := by
      rintro c hc
      simp only [bne_iff_ne]
      rintro rfl
      exact hbody hc
    rw [afterPlaceholder?, List.dropWhile_append_of_pos hall]
    rfl

theorem removePlaceholders_of_some {body rest : List Char}
    (h : afterPlaceholder? body = some rest) :
    removePlaceholders ('\x7b' :: '\x7b' :: body) = removePlaceholders rest := by
  rw [removePlaceholders.eq_1]
  split
  · next r hr => rw [Option.some.inj (h.symm.trans hr)]
  · next hnone => simp [h] at hnone

theorem removePlaceholders_of_none {body : List Char} (h : afterPlaceholder? body = none) :
    removePlaceholders ('\x7b' :: '\x7b' :: body) =
      '\x7b' :: removePlaceholders ('\x7b' :: body) := by
  rw [removePlaceholders.eq_1]
  split
  · next r hr => simp [h] at hr
  · rfl

theorem removePlaceholders_sublist (cs : List Char) : (removePlaceholders cs).Sublist cs := by
  induction cs using removePlaceholders.induct with
  | case1 body rest h _ ih =>
    obtain ⟨inner, rfl, -⟩ := afterPlaceholder?_eq_some_iff.1 h
    rw [removePlaceholders_of_some h]
    refine ih.trans ?_
    have hsuffix : rest <:+ '\x7b' :: '\x7b' :: (inner ++ '\x7d' :: '\x7d' :: rest) :=
      ⟨'\x7b' :: '\x7b' :: (inner ++ ['\x7d', '\x7d']), by simp⟩
    exact hsuffix.sublist
  | case2 body h ih =>
    rw [removePlaceholders_of_none h]
    exact ih.cons_cons _
  | case3 c cs hc ih =>
    rw [removePlaceholders.eq_2 c cs hc]
    exact ih.cons_cons _
  | case4 => rw [removePlaceholders.eq_3]

/-- What stands on either side of a placeholder is kept apart from the other side, or the braces of
the placeholder would not have been. -/
theorem isChain_removePlaceholders {a : Char} (h : (a :: cs).IsChain KeepsBraces) :
    (a :: removePlaceholders cs).IsChain KeepsBraces := by
  induction cs using removePlaceholders.induct generalizing a with
  | case1 body rest hrest _ ih =>
    obtain ⟨inner, rfl, -⟩ := afterPlaceholder?_eq_some_iff.1 hrest
    rw [removePlaceholders_of_some hrest]
    have hclosed : ('\x7d' :: rest).IsChain KeepsBraces :=
      h.suffix ⟨a :: '\x7b' :: '\x7b' :: (inner ++ ['\x7d']), by simp⟩
    obtain ⟨hafter, hrest⟩ := List.isChain_cons.1 hclosed
    refine ih (List.isChain_cons.2 ⟨fun b hb => ?_, hrest⟩)
    obtain ⟨hwildcard, hopening⟩ := hafter b hb
    exact ⟨fun _ => hwildcard (.inr rfl), fun _ => hopening rfl⟩
  | case2 body hnone ih =>
    rw [removePlaceholders_of_none hnone]
    obtain ⟨hhead, htail⟩ := List.isChain_cons_cons.1 h
    exact List.isChain_cons_cons.2 ⟨hhead, ih htail⟩
  | case3 c cs hc ih =>
    rw [removePlaceholders.eq_2 c cs hc]
    obtain ⟨hhead, htail⟩ := List.isChain_cons_cons.1 h
    exact List.isChain_cons_cons.2 ⟨hhead, ih htail⟩
  | case4 =>
    rw [removePlaceholders.eq_3]
    exact h

/-- What is left begins as the text did, unless that begins with a brace. -/
theorem exists_of_removePlaceholders_eq_cons {d : Char} {rest : List Char}
    (h : removePlaceholders cs = d :: rest) :
    ∃ c cs', cs = c :: cs' ∧ (c = d ∨ c = '\x7b') := by
  cases cs with
  | nil => simp [removePlaceholders.eq_3] at h
  | cons c cs =>
    by_cases hc : c = '\x7b'
    · exact ⟨c, cs, rfl, .inr hc⟩
    · rw [removePlaceholders.eq_2 c cs fun _ hbrace => absurd hbrace hc] at h
      exact ⟨c, cs, rfl, .inl (List.cons.inj h).1⟩

/-- The first closing brace that is left has another one after it only if one of the text has. -/
theorem exists_of_removePlaceholders_eq_append {body after : List Char}
    (h : removePlaceholders cs = body ++ '\x7d' :: '\x7d' :: after) (hbody : '\x7d' ∉ body)
    (hcs : cs.IsChain KeepsBraces) :
    ∃ body' rest, cs = body' ++ '\x7d' :: '\x7d' :: rest ∧ '\x7d' ∉ body' := by
  induction cs using removePlaceholders.induct generalizing body with
  | case1 inner rest hrest _ _ =>
    obtain ⟨inner, rfl, hinner⟩ := afterPlaceholder?_eq_some_iff.1 hrest
    exact ⟨'\x7b' :: '\x7b' :: inner, rest, rfl, by simp [hinner]⟩
  | case2 inner hnone ih =>
    rw [removePlaceholders_of_none hnone] at h
    cases body with
    | nil => simp at h
    | cons b body =>
      obtain ⟨-, hleft⟩ := List.cons.inj h
      obtain ⟨body', rest, heq, hbody'⟩ :=
        ih hleft (fun hmem => hbody (List.mem_cons_of_mem _ hmem)) hcs.tail
      exact ⟨'\x7b' :: body', rest, by rw [heq]; rfl, by simp [hbody']⟩
  | case3 c cs hc ih =>
    rw [removePlaceholders.eq_2 c cs hc] at h
    cases body with
    | nil =>
      obtain ⟨rfl, hleft⟩ := List.cons.inj h
      obtain ⟨d, cs, rfl, hd⟩ := exists_of_removePlaceholders_eq_cons hleft
      have hkept := (List.isChain_cons_cons.1 hcs).1.2 rfl
      obtain rfl := hd.resolve_right hkept
      exact ⟨[], cs, rfl, by simp⟩
    | cons b body =>
      obtain ⟨rfl, hleft⟩ := List.cons.inj h
      rw [List.mem_cons, not_or] at hbody
      obtain ⟨body', rest, rfl, hbody'⟩ := ih hleft hbody.2 hcs.tail
      exact ⟨c :: body', rest, rfl, by simp [hbody.1, hbody']⟩
  | case4 => simp [removePlaceholders.eq_3] at h

theorem HasPlaceholder.tail {c : Char} (h : HasPlaceholder (c :: cs)) :
    HasPlaceholder cs ∨ ∃ body after, c = '\x7b' ∧
      cs = '\x7b' :: (body ++ '\x7d' :: '\x7d' :: after) ∧ '\x7d' ∉ body := by
  obtain ⟨before, body, after, heq, hbody⟩ := h
  cases before with
  | nil =>
    obtain ⟨rfl, rfl⟩ := List.cons.inj heq
    exact .inr ⟨body, after, rfl, rfl, hbody⟩
  | cons b before =>
    obtain ⟨-, rfl⟩ := List.cons.inj heq
    exact .inl ⟨before, body, after, rfl, hbody⟩

/-- No placeholder is left when no braces meet in the place of one. -/
theorem not_hasPlaceholder_removePlaceholders (h : cs.IsChain KeepsBraces) :
    ¬ HasPlaceholder (removePlaceholders cs) := by
  induction cs using removePlaceholders.induct with
  | case1 body rest hrest _ ih =>
    obtain ⟨inner, rfl, -⟩ := afterPlaceholder?_eq_some_iff.1 hrest
    rw [removePlaceholders_of_some hrest]
    exact ih (h.suffix ⟨'\x7b' :: '\x7b' :: (inner ++ ['\x7d', '\x7d']), by simp⟩)
  | case2 body hnone ih =>
    rw [removePlaceholders_of_none hnone]
    intro hleft
    rcases hleft.tail with hleft | ⟨inner, after, -, heq, hinner⟩
    · exact ih h.tail hleft
    · have hclosing : removePlaceholders ('\x7b' :: body) =
          ('\x7b' :: inner) ++ '\x7d' :: '\x7d' :: after := heq
      obtain ⟨body', rest, hbody, hnot⟩ :=
        exists_of_removePlaceholders_eq_append hclosing (by simp [hinner]) h.tail
      cases body' with
      | nil => simp at hbody
      | cons b body' =>
        obtain ⟨-, rfl⟩ := List.cons.inj hbody
        have hsome : afterPlaceholder? (body' ++ '\x7d' :: '\x7d' :: rest) = some rest :=
          afterPlaceholder?_eq_some_iff.2
            ⟨body', rfl, fun hmem => hnot (List.mem_cons_of_mem _ hmem)⟩
        simp [hsome] at hnone
  | case3 c cs hc ih =>
    rw [removePlaceholders.eq_2 c cs hc]
    intro hleft
    rcases hleft.tail with hleft | ⟨inner, after, hbrace, heq, -⟩
    · exact ih h.tail hleft
    · obtain ⟨d, cs, rfl, hd⟩ := exists_of_removePlaceholders_eq_cons heq
      exact hc cs hbrace (by rw [hd.elim id id])
  | case4 =>
    rintro ⟨before, body, after, heq, -⟩
    simp [removePlaceholders.eq_3] at heq

/-! ## From the remainder of a filename to its stem -/

theorem HasPlaceholder.mono {ds : List Char} (h : HasPlaceholder cs) (hcs : cs <:+: ds) :
    HasPlaceholder ds := by
  obtain ⟨before, body, after, rfl, hbody⟩ := h
  obtain ⟨start, rest, rfl⟩ := hcs
  exact ⟨start ++ before, body, after ++ rest, by simp, hbody⟩

/-- A placeholder comes from one when the braces come from braces, with nothing else between those
that are next to each other. -/
theorem HasPlaceholder.of_split {q : List Char → List Char → Prop} {ds : List Char}
    (hsplit : ∀ xs {cs ys m}, q cs (xs ++ m :: ys) → m = '\x7b' ∨ m = '\x7d' →
      ∃ us vs, cs = us ++ m :: vs ∧ q vs ys ∧ ('\x7d' ∈ us → '\x7d' ∈ xs) ∧ (xs = [] → us = []))
    (hcs : q cs ds) (h : HasPlaceholder ds) : HasPlaceholder cs := by
  obtain ⟨before, body, after, rfl, hbody⟩ := h
  obtain ⟨us, vs₁, rfl, hfirst, -, -⟩ := hsplit before hcs (.inl rfl)
  obtain ⟨gap₁, vs₂, rfl, hsecond, -, hgap₁⟩ := hsplit [] hfirst (.inl rfl)
  obtain ⟨body', vs₃, rfl, hthird, hbody', -⟩ := hsplit body hsecond (.inr rfl)
  obtain ⟨gap₂, vs₄, rfl, -, -, hgap₂⟩ := hsplit [] hthird (.inr rfl)
  rw [hgap₁ rfl, hgap₂ rfl]
  exact ⟨us, body', vs₄, rfl, mt hbody' hbody⟩

theorem HasPlaceholder.of_map_dashes
    (h : HasPlaceholder (cs.map fun c => if c = '-' then '_' else c)) : HasPlaceholder cs := by
  refine h.of_split (q := fun cs ds => cs.map (fun c => if c = '-' then '_' else c) = ds) ?_ rfl
  intro xs cs ys m hmap hm
  obtain ⟨us, ws, rfl, rfl, hws⟩ := List.map_eq_append_iff.1 hmap
  obtain ⟨c, vs, rfl, hc, rfl⟩ := List.map_eq_cons_iff.1 hws
  have hbrace : c = m := by
    split at hc
    · rcases hm with rfl | rfl <;> simp at hc
    · exact hc
  refine ⟨us, vs, by rw [hbrace], rfl, fun hmem => ?_, List.map_eq_nil_iff.1⟩
  exact List.mem_map.2 ⟨_, hmem, by simp⟩

theorem HasPlaceholder.of_lowerAfter {before : List Char}
    (h : HasPlaceholder (Text.lowerAfter before cs)) : HasPlaceholder cs := by
  refine h.of_split (q := fun cs ds => ∃ before, Text.lowerAfter before cs = ds) ?_ ⟨before, rfl⟩
  rintro xs cs ys m ⟨before, hlower⟩ hm
  have hmark : Text.IsMark m := by
    rcases hm with rfl | rfl <;> decide
  obtain ⟨us, vs, before', hcs, hvs, hmem, hnil⟩ :=
    Text.exists_of_lowerAfter_eq_append_cons hlower hmark
  exact ⟨us, vs, hcs, ⟨before', hvs⟩, (hmem _ (by decide)).1, hnil.2⟩

/-- What a filtered text has before and after a character comes from what is before and after it. -/
theorem exists_of_filter_eq_append_cons {p : Char → Bool} {xs ys : List Char} {m : Char}
    (h : cs.filter p = xs ++ m :: ys) :
    ∃ us vs, cs = us ++ m :: vs ∧ us.filter p = xs ∧ vs.filter p = ys := by
  obtain ⟨us, ws, rfl, rfl, hws⟩ := List.filter_eq_append_iff.1 h
  obtain ⟨gap, vs, rfl, hgap, -, rfl⟩ := List.filter_eq_cons_iff.1 hws
  refine ⟨us ++ gap, vs, by simp, ?_, rfl⟩
  rw [List.filter_append, List.filter_eq_nil_iff.2 hgap, List.append_nil]

/-- Taking wildcards away makes no placeholder when none of them stands after a brace. -/
theorem HasPlaceholder.of_filter_wildcards (h : HasPlaceholder (cs.filter fun c => !isWildcard c))
    (hcs : cs.IsChain KeepsBraces) : HasPlaceholder cs := by
  have hdrop : (cs.dropWhile isWildcard).filter (fun c => !isWildcard c) =
      cs.filter fun c => !isWildcard c := by
    have hnil : (cs.takeWhile isWildcard).filter (fun c => !isWildcard c) = [] :=
      List.filter_eq_nil_iff.2 fun c hc => by simp [List.mem_takeWhile_imp hc]
    conv_rhs => rw [← List.takeWhile_append_dropWhile (p := isWildcard) (l := cs)]
    rw [List.filter_append, hnil, List.nil_append]
  rw [← hdrop] at h
  refine HasPlaceholder.mono (h.of_split (q := fun cs ds => cs.filter (fun c => !isWildcard c) = ds ∧
    cs.IsChain KeepsBraces ∧ ∀ c ∈ cs.head?, isWildcard c = false) ?_ ⟨rfl, ?_, ?_⟩)
    (List.dropWhile_suffix _).isInfix
  · rintro xs cs ys m ⟨hfilter, hcs, hhead⟩ hm
    obtain ⟨us, vs, rfl, rfl, rfl⟩ := exists_of_filter_eq_append_cons hfilter
    obtain ⟨hafter, hvs⟩ := List.isChain_cons.1 hcs.right_of_append
    refine ⟨us, vs, rfl, ⟨rfl, hvs, fun c hc => (hafter c hc).1 hm⟩, fun hmem => ?_, fun hnil => ?_⟩
    · exact List.mem_filter.2 ⟨hmem, by decide⟩
    · cases us with
      | nil => rfl
      | cons u us =>
        have hu := List.filter_eq_nil_iff.1 hnil u (by simp)
        simp [hhead u rfl] at hu
  · exact hcs.suffix (List.dropWhile_suffix _)
  · intro c hc
    have hnot := List.head?_dropWhile_not isWildcard cs
    rw [Option.mem_def.1 hc] at hnot
    simpa using hnot

theorem stripEnds_isInfix (p : Char → Bool) (cs : List Char) : Text.stripEnds p cs <:+: cs := by
  obtain ⟨as, bs, hcs, -, -⟩ := Text.exists_eq_append_stripEnds p cs
  exact ⟨as, bs, hcs.symm⟩

theorem isChain_cutExtensions (h : filename.toList.IsChain KeepsBraces) :
    (cutExtensions (Text.trim filename).toList).IsChain KeepsBraces := by
  refine List.IsChain.prefix ?_ (cutExtensions_isPrefix _)
  rw [Text.toList_trim]
  exact List.IsChain.infix h (stripEnds_isInfix _ _)

theorem isChain_remainder (h : filename.toList.IsChain KeepsBraces) :
    (remainder filename).IsChain KeepsBraces := by
  -- A space in front of a text is not a brace.
  have hspace : (' ' :: cutExtensions (Text.trim filename).toList).IsChain KeepsBraces :=
    List.isChain_cons.2 ⟨fun b _ => by simp [KeepsBraces], isChain_cutExtensions h⟩
  refine List.isChain_map_of_isChain _ (fun a b hab => ?_) (isChain_removePlaceholders hspace).tail
  unfold KeepsBraces at hab ⊢
  split <;> split <;> simp_all [isWildcard]

theorem not_hasPlaceholder_core (h : filename.toList.IsChain KeepsBraces) :
    ¬ HasPlaceholder (core filename) := by
  intro hcore
  have hkept := List.IsChain.infix (isChain_remainder h) (stripEnds_isInfix isSeparator _)
  have hstripped := (hcore.mono (stripEnds_isInfix _ _)).of_filter_wildcards hkept
  exact not_hasPlaceholder_removePlaceholders (isChain_cutExtensions h)
    (hstripped.mono (stripEnds_isInfix _ _)).of_map_dashes

/-- A blank inside of a text is a space, and on neither side of it are there wildcards and
underscores only, unless these are underscores only. -/
theorem SpacesInside.eq_underscore {us vs : List Char} {b : Char} (h : SpacesInside (us ++ b :: vs))
    (hb : Text.isBlank b = true) : b = ' ' ∧
      ((∀ c ∈ us, isWildcard c = true ∨ c = '_') → ∀ c ∈ us, c = '_') ∧
      ((∀ c ∈ vs, isWildcard c = true ∨ c = '_') → ∀ c ∈ vs, c = '_') := by
  obtain rfl : b = ' ' := h.space b (by simp) hb
  have hapart := h.apart
  rw [List.filter_append, List.filter_cons_of_pos (by decide)] at hapart
  obtain ⟨-, hafter, hbefore⟩ := List.isChain_append.1 hapart
  -- The nearest character that is no underscore is a wildcard, if there is one.
  have hwildcard : ∀ {ws : List Char} {c : Char}, (∀ c ∈ ws, isWildcard c = true ∨ c = '_') →
      c ∈ ws.filter (· != '_') → isWildcard c = true := by
    intro ws c hws hc
    obtain ⟨hc, hne⟩ := List.mem_filter.1 hc
    exact (hws c hc).resolve_right (by simpa using hne)
  have hnil : ∀ {ws : List Char}, ws.filter (· != '_') = [] → ∀ c ∈ ws, c = '_' := by
    intro ws hws c hc
    simpa using List.filter_eq_nil_iff.1 hws c hc
  refine ⟨rfl, fun hus => hnil ?_, fun hvs => hnil ?_⟩
  · rw [← List.getLast?_eq_none_iff, Option.eq_none_iff_forall_not_mem]
    intro c hc
    exact (hbefore c hc ' ' rfl).2 ⟨hwildcard hus (List.mem_of_mem_getLast? hc), hb⟩
  · rw [← List.head?_eq_none_iff, Option.eq_none_iff_forall_not_mem]
    intro c hc
    exact ((List.isChain_cons.1 hafter).1 c hc).1 ⟨hb, hwildcard hvs (List.mem_of_mem_head? hc)⟩

theorem SpacesInside.mono {ds : List Char} (h : SpacesInside ds) (hcs : cs <:+: ds) :
    SpacesInside cs where
  space c hc := h.space c (hcs.subset hc)
  apart := List.IsChain.infix h.apart (hcs.filter _)

theorem trimmedEnds_core (h : SpacesInside (remainder filename)) :
    Text.TrimmedEnds Text.isBlank (core filename) := by
  have hspaces := h.mono (stripEnds_isInfix isSeparator _)
  have hends := Text.trimmedEnds_stripEnds isSeparator (remainder filename)
  obtain ⟨as, bs, hfilter, has, hbs⟩ := Text.exists_eq_append_stripEnds (· == '_')
    ((Text.stripEnds isSeparator (remainder filename)).filter fun c => !isWildcard c)
  rw [← core] at hfilter
  -- What was taken away beside the stem are wildcards and underscores.
  have haway : ∀ {ws zs : List Char}, ws.filter (fun c => !isWildcard c) = zs →
      (∀ c ∈ zs, (c == '_') = true) → ∀ c ∈ ws, isWildcard c = true ∨ c = '_' := by
    rintro ws _ rfl hzs c hc
    by_cases hwildcard : isWildcard c = true
    · exact .inl hwildcard
    · exact .inr (eq_of_beq (hzs c (List.mem_filter.2 ⟨hc, by simpa using hwildcard⟩)))
  refine ⟨fun b hb => Bool.eq_false_iff.2 fun hblank => ?_,
    fun b hb => Bool.eq_false_iff.2 fun hblank => ?_⟩
  · obtain ⟨rest, hcore⟩ := List.head?_eq_some_iff.1 hb
    rw [hcore, List.append_assoc, List.cons_append] at hfilter
    obtain ⟨us, vs, ht, hus, -⟩ := exists_of_filter_eq_append_cons hfilter
    rw [ht] at hspaces hends
    obtain ⟨rfl, hunderscores, -⟩ := hspaces.eq_underscore hblank
    cases us with
    | nil => exact absurd (hends.head ' ' rfl) (by decide)
    | cons u us =>
      obtain rfl := hunderscores (haway hus has) u (by simp)
      exact absurd (hends.head '_' rfl) (by decide)
  · obtain ⟨rest, hcore⟩ := List.getLast?_eq_some_iff.1 hb
    rw [hcore, ← List.append_assoc, List.append_assoc, List.singleton_append] at hfilter
    obtain ⟨us, vs, ht, -, hvs⟩ := exists_of_filter_eq_append_cons hfilter
    rw [ht] at hspaces hends
    obtain ⟨rfl, -, hunderscores⟩ := hspaces.eq_underscore hblank
    rcases vs.eq_nil_or_concat with rfl | ⟨vs, v, rfl⟩
    · exact absurd (hends.last ' ' (by simp)) (by decide)
    · obtain rfl := hunderscores (haway hvs hbs) v (by simp)
      rw [List.concat_eq_append, ← List.cons_append, ← List.append_assoc] at hends
      exact absurd (hends.last '_' List.getLast?_concat) (by decide)

/-! ## Stems -/

/-- What a stem of a filename is like. -/
structure Stems (filename stem : String) : Prop where
  ne_empty : stem ≠ ""
  lower_eq : Text.lower stem = stem
  no_wildcard : ∀ c ∈ stem.toList, isWildcard c = false
  no_dash : '-' ∉ stem.toList
  no_underscore : Text.TrimmedEnds (· == '_') stem.toList
  /-- There is no point but for those that a line break follows. -/
  no_point : ((Text.trim filename).toList.Pairwise fun a b => a = '.' → b ≠ '\n') →
    '.' ∉ stem.toList
  no_placeholder : filename.toList.IsChain KeepsBraces → ¬ HasPlaceholder stem.toList
  no_blank : SpacesInside (remainder filename) → Text.TrimmedEnds Text.isBlank stem.toList

theorem Stems.isClean (h : Stems filename stem)
    (hpoint : (Text.trim filename).toList.Pairwise fun a b => a = '.' → b ≠ '\n')
    (hbraces : filename.toList.IsChain KeepsBraces) (hspaces : SpacesInside (remainder filename)) :
    IsClean stem where
  ne_empty := h.ne_empty
  lower_eq := h.lower_eq
  no_wildcard := h.no_wildcard
  no_dash := h.no_dash
  no_point := h.no_point hpoint
  no_placeholder := h.no_placeholder hbraces
  ends := by
    have hinside : ∀ c ∈ stem.toList, c ≠ '.' ∧ c ≠ '-' := fun c hc =>
      ⟨fun hc' => h.no_point hpoint (hc' ▸ hc), fun hc' => h.no_dash (hc' ▸ hc)⟩
    have hend : ∀ c ∈ stem.toList, (c == '_') = false → Text.isBlank c = false →
        (isSeparator c || Text.isBlank c) = false := by
      intro c hc hunderscore hblank
      have hspace : c ≠ ' ' := by
        rintro rfl
        simp [Text.isBlank] at hblank
      simp [isSeparator, hinside c hc, hunderscore, hblank, hspace]
    refine ⟨fun c hc => ?_, fun c hc => ?_⟩
    · exact hend c (List.mem_of_mem_head? hc) (h.no_underscore.head c hc)
        ((h.no_blank hspaces).head c hc)
    · exact hend c (List.mem_of_mem_getLast? hc) (h.no_underscore.last c hc)
        ((h.no_blank hspaces).last c hc)

theorem mem_remainder_of_mem_core {c : Char} (h : c ∈ core filename) :
    c ∈ remainder filename ∧ isWildcard c = false := by
  obtain ⟨hc, hwildcard⟩ := List.mem_filter.1 ((stripEnds_isInfix _ _).subset h)
  exact ⟨(stripEnds_isInfix _ _).subset hc, by simpa using hwildcard⟩

theorem not_mem_remainder (h : (Text.trim filename).toList.Pairwise fun a b => a = '.' → b ≠ '\n') :
    '.' ∉ remainder filename := by
  intro hmem
  obtain ⟨c, hc, hpoint⟩ := List.mem_map.1 hmem
  split at hpoint
  · simp at hpoint
  · rw [hpoint] at hc
    exact not_mem_cutExtensions h ((removePlaceholders_sublist _).subset hc)

theorem dash_not_mem_remainder (filename : String) : '-' ∉ remainder filename := by
  intro hmem
  obtain ⟨c, -, hdash⟩ := List.mem_map.1 hmem
  split at hdash
  · simp at hdash
  · contradiction

theorem stems_ofFilename (h : ofFilename filename ≠ "") : Stems filename (ofFilename filename) where
  ne_empty := h
  lower_eq := Text.lower_lower _
  no_wildcard c hc := by
    rw [toList_ofFilename] at hc
    refine Bool.eq_false_iff.2 fun hwildcard => ?_
    have hmark : Text.IsMark c := by
      simp only [isWildcard, Bool.or_eq_true, beq_iff_eq] at hwildcard
      rcases hwildcard with rfl | rfl <;> decide
    have hcore := mem_remainder_of_mem_core ((Text.mem_lowerAfter_iff hmark).1 hc)
    simp [hwildcard] at hcore
  no_dash := by
    rw [toList_ofFilename, Text.mem_lowerAfter_iff (by decide)]
    exact fun hmem => dash_not_mem_remainder filename (mem_remainder_of_mem_core hmem).1
  no_underscore := by
    rw [toList_ofFilename]
    refine (Text.trimmedEnds_stripEnds _ _).lowerAfter_of_marks fun c hc => ?_
    rw [eq_of_beq hc]
    decide
  no_point hpoint := by
    rw [toList_ofFilename, Text.mem_lowerAfter_iff (by decide)]
    exact fun hmem => not_mem_remainder hpoint (mem_remainder_of_mem_core hmem).1
  no_placeholder hbraces := by
    rw [toList_ofFilename]
    exact fun hleft => not_hasPlaceholder_core hbraces hleft.of_lowerAfter
  no_blank hspaces := by
    rw [toList_ofFilename]
    exact (trimmedEnds_core hspaces).lowerAfter

end FileStem

open FileStem

/-- A name that is derived from a filename has a stem that is clean, unless points, braces or blanks
of the filename stand where they are not removed as they should be. -/
theorem exists_stem_of_sourceTableOfFilename? {filename flow name : String}
    (h : sourceTableOfFilename? filename flow = some name) :
    ∃ stem, name = withFlowPrefix stem flow ∧ Stems filename stem ∧
      (((Text.trim filename).toList.Pairwise fun a b => a = '.' → b ≠ '\n') →
        filename.toList.IsChain KeepsBraces → SpacesInside (remainder filename) →
        IsClean stem) := by
  unfold sourceTableOfFilename? at h
  dsimp only at h
  split at h
  · simp at h
  · next hne =>
    cases h
    exact ⟨_, rfl, stems_ofFilename hne, (stems_ofFilename hne).isClean⟩

theorem exists_stem_dailyOrders :
    sourceTableOfFilename? "{{ ds }}-Daily-Orders_*.2024.csv" "sales" = some "sales_daily_orders" ∧
    ∃ stem, "sales_daily_orders" = withFlowPrefix stem "sales" ∧ IsClean stem := by
  have hname : sourceTableOfFilename? "{{ ds }}-Daily-Orders_*.2024.csv" "sales" =
      some "sales_daily_orders" := by decide +kernel
  obtain ⟨stem, heq, -, hclean⟩ := exists_stem_of_sourceTableOfFilename? hname
  exact ⟨hname, stem, heq, hclean (by decide +kernel) (by decide +kernel) (by decide +kernel)⟩

/-- Names with a blank at the end, with a placeholder and with a point in them have no clean stem. -/
theorem exists_not_isClean : Text.lower "sales" = "sales" ∧
    ∀ filename ∈ ["orders *.csv", "{{a}{{x}}}orders.csv", "a.b\nc"],
      ∃ name, sourceTableOfFilename? filename "sales" = some name ∧
        ∀ stem, name = withFlowPrefix stem "sales" → ¬ IsClean stem := by
  have hstems : ∀ {stem rest : String}, "sales_" ++ rest = withFlowPrefix stem "sales" →
      IsClean stem → stem = "sales_" ++ rest ∨ stem = rest := by
    intro stem rest hname hclean
    have hcases := withFlowPrefix_eq_iff.1 hname.symm
    rw [hclean.lower_eq] at hcases
    exact hcases.imp id (·.1)
  refine ⟨by decide +kernel, ?_⟩
  simp only [List.forall_mem_cons, List.not_mem_nil, false_implies, implies_true, and_true]
  refine ⟨⟨"sales_" ++ "orders ", by decide +kernel, fun stem hname hclean => ?_⟩,
    ⟨"sales_" ++ "\x7b\x7ba\x7d\x7dorders", by decide +kernel, fun stem hname hclean => ?_⟩,
    ⟨"sales_" ++ "a.b\nc", by decide +kernel, fun stem hname hclean => ?_⟩⟩
  · have hends := hclean.ends.last ' '
    rcases hstems hname hclean with rfl | rfl <;> exact absurd (hends (by decide)) (by decide)
  · refine hclean.no_placeholder ?_
    rcases hstems hname hclean with rfl | rfl
    · exact ⟨"sales_".toList, ['a'], "orders".toList, by decide, by decide⟩
    · exact ⟨[], ['a'], "orders".toList, by decide, by decide⟩
  · have hpoint := hclean.no_point
    rcases hstems hname hclean with rfl | rfl <;> exact absurd (by decide) hpoint

end Intake
