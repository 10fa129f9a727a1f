import ApiScan.Project.Detection
import ApiScan.Project.Scan
import ApiScan.Proofs.Path
import ApiScan.Proofs.Source.Comment
import ApiScan.Proofs.Work

set_option autoImplicit false

/-! # The folder of the schemas

The configuration of a library of models names the folder of the schemas as a property. What is
looked for is only the word `schema` and a comma: the first place where the word stands, and a comma
comes on the line of what is behind it, gives the value. So a property is passed over if the word
stands on a line in front, as a part of another name or of a value, and a comma comes behind it. -/

namespace ApiScan.Project

open Text Source

variable {s link text front path value line more : Text} {root file : Path} {orm : Text} {tree : Tree}

/-! ## Values behind the word -/

/-- What stands between the word and a text behind it: white space, with a colon in it or without
    one. -/
structure Link (link s : Text) : Prop where
  parts : AllBlank link ∧ s.head? ≠ some ':'
    ∨ ∃ gap gap', AllBlank gap ∧ AllBlank gap' ∧ link = gap ++ ':' :: gap'
  starts : ∀ c, s.head? = some c → isBlank c = false

/-- A text behind what may stand between the word and its value. -/
def dropLink (s : Text) : Text := stripStart ((after? [':'] (stripStart s)).getD (stripStart s))

/-- A value is read where the text starts. -/
def Reads (s value : Text) : Prop :=
  ∃ link rest, s = "schema".toList ++ (link ++ (value ++ ',' :: rest))
    ∧ Link link (value ++ ',' :: rest) ∧ ∀ c ∈ value, c ≠ ',' ∧ c ≠ '\n'

theorem exists_link (s : Text) : ∃ link, Link link (dropLink s) ∧ s = link ++ dropLink s := by
  obtain ⟨gap, hgap, hs⟩ := exists_blank_append s
  unfold dropLink
  cases hcolon : after? [':'] (stripStart s) with
  | none =>
      rw [Option.getD_none, stripStart_stripStart]
      refine ⟨gap, ⟨Or.inl ⟨hgap, fun hhead => ?_⟩, fun c => isBlank_of_head?_stripStart⟩, hs⟩
      obtain ⟨rest, hrest⟩ := List.head?_eq_some_iff.1 hhead
      rw [hrest, show after? [':'] (':' :: rest) = some rest from rfl] at hcolon
      exact nomatch hcolon
  | some rest =>
      obtain ⟨gap', hgap', hrest⟩ := exists_blank_append rest
      rw [after?_eq_some_iff] at hcolon
      rw [Option.getD_some]
      refine ⟨gap ++ ':' :: gap', ⟨Or.inr ⟨gap, gap', hgap, hgap', rfl⟩,
        fun c => isBlank_of_head?_stripStart⟩, ?_⟩
      rw [List.append_assoc, List.cons_append, ← hrest]
      exact hs.trans (congrArg (gap ++ ·) hcolon)

theorem dropLink_append (h : Link link s) : dropLink (link ++ s) = s := by
  have hkept : stripStart s = s := stripStart_of_head? h.starts
  unfold dropLink
  rcases h.parts with ⟨hgap, hcolon⟩ | ⟨gap, gap', hgap, hgap', rfl⟩
  · have hnone : after? [':'] s = none := by
      rw [Option.eq_none_iff_forall_ne_some]
      intro rest hrest
      rw [after?_eq_some_iff.1 hrest] at hcolon
      exact hcolon rfl
    rw [stripStart_of_blank hgap, hkept, hnone, Option.getD_none, hkept]
  · rw [List.append_assoc, stripStart_of_blank hgap, List.cons_append, stripStart_cons rfl,
      show after? [':'] (':' :: (gap' ++ s)) = some (gap' ++ s) from rfl, Option.getD_some,
      stripStart_of_blank hgap', hkept]

theorem schemaValue?_eq_some_iff : schemaValue? s = some value ↔ Reads s value := by
  have hvalue : schemaValue? s = (after? "schema".toList s).bind fun rest =>
      if ((dropLink rest).dropWhile fun c => c ≠ ',' && c ≠ '\n').head? = some ','
      then some ((dropLink rest).takeWhile fun c => c ≠ ',' && c ≠ '\n') else none := rfl
  rw [hvalue, Option.bind_eq_some_iff]
  constructor
  · rintro ⟨behind, hafter, hread⟩
    split at hread
    · next hcomma =>
        obtain ⟨hplain, rest, hrest⟩ := upToComma_iff.1 ⟨Option.some.inj hread, hcomma⟩
        obtain ⟨link, hlink, hbehind⟩ := exists_link behind
        rw [hrest] at hlink hbehind
        exact ⟨link, rest, by rw [after?_eq_some_iff.1 hafter, hbehind], hlink, hplain⟩
    · exact nomatch hread
  · rintro ⟨link, rest, rfl, hlink, hplain⟩
    obtain ⟨htake, hcomma⟩ := upToComma_iff.2 ⟨hplain, rest, rfl⟩
    exact ⟨_, after?_eq_some_iff.2 rfl, by rw [dropLink_append hlink, if_pos hcomma, htake]⟩

/-! ## Lines in front -/

theorem blank_or_colon_of_mem_link (h : Link link s) {c : Char} (hc : c ∈ link) :
    isBlank c = true ∨ c = ':' := by
  rcases h.parts with ⟨hgap, -⟩ | ⟨gap, gap', hgap, hgap', rfl⟩
  · exact Or.inl (hgap c hc)
  · rcases List.mem_append.1 hc with hm | hm
    · exact Or.inl (hgap c hm)
    · exact (List.mem_cons.1 hm).symm.imp_left (hgap' c)

/-- If something stands behind the word on its line, what is read starts on this line. -/
theorem exists_of_link (hlink : Link link s) (hsome : ∃ c ∈ line, isBlank c = false ∧ c ≠ ':')
    (h : line ++ '\n' :: more = link ++ s) : ∃ t, line = link ++ t ∧ s = t ++ '\n' :: more := by
  rcases List.append_eq_append_iff.1 h with ⟨t, rfl, -⟩ | ⟨t, hline, hs⟩
  · obtain ⟨c, hc, hblank, hcolon⟩ := hsome
    rcases blank_or_colon_of_mem_link hlink (List.mem_append_left t hc) with hyes | rfl
    · exact nomatch hblank.symm.trans hyes
    · exact absurd rfl hcolon
  · exact ⟨t, hline, hs⟩

/-- **A line with the word and something behind it gives a value** exactly if a comma comes behind
    the word. -/
theorem exists_reads_iff (more : Text) (hbreak : '\n' ∉ line)
    (hsome : ∃ c ∈ line, isBlank c = false ∧ c ≠ ':') :
    (∃ value, Reads ("schema".toList ++ (line ++ '\n' :: more)) value) ↔ ',' ∈ line := by
  constructor
  · rintro ⟨value, link, rest, hs, hlink, hplain⟩
    obtain ⟨t, rfl, ht⟩ := exists_of_link hlink hsome (List.append_cancel_left hs)
    rcases List.append_eq_append_iff.1 ht with ⟨u, rfl, hu⟩ | ⟨u, rfl, hu⟩
    · -- the comma of the value is in front of the end of the line
      cases u with
      | nil => exact nomatch hu
      | cons c u =>
          obtain ⟨rfl, -⟩ := List.cons.inj hu
          simp
    · -- the value would go on behind the end of the line
      cases u with
      | nil => exact nomatch hu
      | cons c u =>
          obtain ⟨rfl, -⟩ := List.cons.inj hu
          exact absurd rfl (hplain '\n' (by simp)).2
  · intro hcomma
    obtain ⟨link, hlink, hs⟩ := exists_link (line ++ '\n' :: more)
    obtain ⟨t, rfl, ht⟩ := exists_of_link hlink hsome hs
    have hmem : ',' ∈ t := by
      refine (List.mem_append.1 hcomma).resolve_left fun hm => ?_
      exact absurd (blank_or_colon_of_mem_link hlink hm) (by decide)
    obtain ⟨value, rest, rfl, hfirst⟩ := List.eq_append_cons_of_mem hmem
    have hbehind : dropLink (link ++ (value ++ ',' :: rest) ++ '\n' :: more)
        = value ++ ',' :: (rest ++ '\n' :: more) := by rw [ht, List.append_assoc, List.cons_append]
    rw [hbehind] at hlink hs
    refine ⟨value, link, rest ++ '\n' :: more, by rw [hs], hlink, fun c hc => ⟨?_, ?_⟩⟩
    · rintro rfl
      exact hfirst hc
    · rintro rfl
      exact hbreak (by simp [hc])

/-! ## The property -/

/-- Behind `front`, which is whole lines and white space, stands the property: the word, a colon and a
    blank, and between quotes a path without quotes and commas. -/
structure PropertyBehind (text front path : Text) : Prop where
  stands : ∃ quote rest, isQuote quote = true
    ∧ text = front ++ ("schema: ".toList ++ (quote :: (path ++ [quote]) ++ ',' :: rest))
  path_ne : path ≠ []
  plain : ∀ c ∈ path, isQuote c = false ∧ c ≠ ',' ∧ c ≠ '\n'
  indented : ∃ lines indent, AllBlank indent ∧ (front = indent ∨ front = lines ++ '\n' :: indent)

/-- The word stands on a line of `front`, with `line` behind it. -/
def WordBefore (front line : Text) : Prop :=
  '\n' ∉ line ∧ ∃ before more, front = before ++ ("schema".toList ++ (line ++ '\n' :: more))

theorem reads_property {quote : Char} (hquote : isQuote quote = true)
    (hpath : ∀ c ∈ path, c ≠ ',' ∧ c ≠ '\n') (rest : Text) :
    Reads ("schema: ".toList ++ (quote :: (path ++ [quote]) ++ ',' :: rest))
      (quote :: (path ++ [quote])) := by
  have hplain {c : Char} (hc : isQuote c = true) : c ≠ ',' ∧ c ≠ '\n' :=
    ⟨(ne_of_isQuote hc rfl).symm, (ne_of_isQuote hc rfl).symm⟩
  refine ⟨": ".toList, rest, rfl, ⟨Or.inr ⟨[], [' '], by decide, by decide, rfl⟩, ?_⟩, ?_⟩
  · rintro c hc
    obtain rfl := Option.some.inj hc
    exact isBlank_eq_false_of_isQuote hquote
  · intro c hc
    rcases List.mem_cons.1 hc with rfl | hm
    · exact hplain hquote
    · rcases List.mem_append.1 hm with hm | hm
      · exact hpath c hm
      · exact hplain (by rwa [List.mem_singleton.1 hm])

theorem schemaPlace_quoted {quote : Char} (hquote : isQuote quote = true)
    (hpath : ∀ c ∈ path, isQuote c = false) (hne : path ≠ []) :
    schemaPlace (quote :: (path ++ [quote])) = Path.dropDotSlash path := by
  have hblank := isBlank_eq_false_of_isQuote hquote
  have hstrip : strip (quote :: (path ++ [quote])) = quote :: (path ++ [quote]) :=
    strip_of_ends (stripStart_cons hblank)
      (show quote :: (path ++ [quote]) = (quote :: path) ++ [quote] from rfl) hblank
  have hstart : (quote :: (path ++ [quote])).dropWhile isQuote = path ++ [quote] := by
    obtain ⟨c, more, rfl⟩ := List.exists_cons_of_ne_nil hne
    rw [List.dropWhile_cons_of_pos hquote, List.cons_append,
      List.dropWhile_cons_of_neg (by simp [hpath c List.mem_cons_self])]
  have hend : dropEndWhile isQuote (path ++ [quote]) = path := by
    rw [dropEndWhile, List.reverse_append, List.reverse_singleton, List.singleton_append,
      List.dropWhile_cons_of_pos hquote]
    exact dropEndWhile_of_forall hpath
  rw [schemaPlace, hstrip, hstart, hend]

/-! ## The folder -/

/-- A word that starts in front of the property stands on a line in front of it. -/
theorem wordBefore_of_lt {before t : Text} (h : PropertyBehind text front path)
    (htext : text = before ++ ("schema".toList ++ t)) (hlt : before.length < front.length) :
    ∃ line more, '\n' ∉ line ∧ front = before ++ ("schema".toList ++ (line ++ '\n' :: more)) := by
  obtain ⟨quote, rest, -, hstands⟩ := h.stands
  obtain ⟨w, rfl, hw⟩ : ∃ w, front = before ++ w ∧ "schema".toList ++ t
      = w ++ ("schema: ".toList ++ (quote :: (path ++ [quote]) ++ ',' :: rest)) := by
    rcases List.append_eq_append_iff.1 (hstands.symm.trans htext) with ⟨w, rfl, -⟩ | ⟨w, hfront, ht⟩
    · exact absurd hlt (by simp)
    · exact ⟨w, hfront, ht⟩
  -- the word starts with a character that is no white space
  have hhead {gap : Text} (hgap : AllBlank gap) (hsuffix : w <:+ gap) : False := by
    cases w with
    | nil => exact absurd hlt (by simp)
    | cons c w =>
        obtain ⟨rfl, -⟩ := List.cons.inj hw
        exact absurd (hgap 's' (hsuffix.subset List.mem_cons_self)) (by decide)
  obtain ⟨lines, indent, hindent, hfront | hfront⟩ := h.indented
  · exact (hhead hindent ⟨before, hfront⟩).elim
  · rcases List.append_eq_append_iff.1 hfront with ⟨u, hlines, hu⟩ | ⟨u, -, hu⟩
    · rw [hu, List.append_assoc, List.cons_append] at hw
      have hword : u ++ '\n' :: (indent ++ ("schema: ".toList ++ (quote :: (path ++ [quote]) ++ ',' :: rest)))
          = [] ++ "schema".toList ++ t := hw.symm
      rcases split_of_not_mem (by decide) hword with ⟨tail, htail, -⟩ | ⟨more, hnil, -⟩
      · obtain ⟨line, more, hmore, hbreak⟩ :=
          List.eq_append_cons_of_mem (show '\n' ∈ tail ++ '\n' :: indent by simp)
        exact ⟨line, more, hbreak, by rw [hu, htail, ← hmore]; rfl⟩
      · exact absurd hnil (by simp)
    · exact (hhead (List.forall_mem_cons.2 ⟨rfl, hindent⟩) ⟨u, hu.symm⟩).elim

/-- The value that is read first gives the folder. -/
theorem finds_detectSchemas_iff {place : Text}
    (hfile : (Survey.firstPresent? (ormConfigPaths root orm)).Finds tree (some file))
    (htext : (Survey.sourceText? file).Finds tree (some text))
    (hvalue : find? schemaValue? text = some value) :
    (detectSchemas root orm).Finds tree place ↔ place = orElse (schemaPlace value) defaultSchemas := by
  have hfinds : (detectSchemas root orm).Finds tree (orElse (schemaPlace value) defaultSchemas) := by
    unfold detectSchemas
    refine Survey.finds_bind.2 ⟨_, hfile, Survey.finds_bind.2 ⟨_, htext, ?_⟩⟩
    simp only [hvalue, Option.map_some]
    cases schemaPlace value with
    | nil => rfl
    | cons c more => rfl
  constructor
  · exact fun hplace => hplace.unique hfinds
  · rintro rfl
    exact hfinds

/-- **A property gives the folder of the schemas** if nothing is read in front of it. What is read
    first gives the folder in any case; if each line in front that has the word has something behind
    it, this is the property exactly if no such line has a comma behind the word. -/
theorem schemas_of_property
    (hfile : (Survey.firstPresent? (ormConfigPaths root orm)).Finds tree (some file))
    (htext : (Survey.sourceText? file).Finds tree (some text))
    (hproperty : PropertyBehind text front path) :
    ∃ front' value, Leftmost Reads text front' value ∧ front'.length ≤ front.length
      ∧ (∀ place, (detectSchemas root orm).Finds tree place ↔
          place = orElse (schemaPlace value) defaultSchemas)
      ∧ (front'.length = front.length → schemaPlace value = Path.dropDotSlash path)
      ∧ ((∀ line, WordBefore front line → ∃ c ∈ line, isBlank c = false ∧ c ≠ ':') →
          (front'.length = front.length ↔ ∀ line, WordBefore front line → ',' ∉ line)) := by
  obtain ⟨quote, rest, hquote, hstands⟩ := hproperty.stands
  have hreads := reads_property hquote (fun c hc => (hproperty.plain c hc).2) rest
  have hsome : (find? schemaValue? text).isSome = true :=
    first?_isSome_iff.2 ⟨front, _, hstands, Option.isSome_of_eq_some (schemaValue?_eq_some_iff.2 hreads)⟩
  obtain ⟨value, hvalue⟩ := Option.isSome_iff_exists.1 hsome
  obtain ⟨front', hleft⟩ := (find?_eq_some_iff_leftmost fun _ _ => schemaValue?_eq_some_iff).1 hvalue
  have hle : front'.length ≤ front.length := hleft.first front _ _ hstands hreads
  refine ⟨front', value, hleft, hle, fun place => finds_detectSchemas_iff hfile htext hvalue,
    fun heq => ?same, fun hbehind => ⟨fun heq line hline => ?none, fun hnone => ?first⟩⟩
  case same =>
    obtain ⟨s, hs, hhere⟩ := hleft.here
    obtain ⟨rfl, rfl⟩ := List.append_inj (hs.symm.trans hstands) heq
    have hsame := (schemaValue?_eq_some_iff.2 hhere).symm.trans (schemaValue?_eq_some_iff.2 hreads)
    rw [Option.some.inj hsame]
    exact schemaPlace_quoted hquote (fun c hc => (hproperty.plain c hc).1) hproperty.path_ne
  case none =>
    obtain ⟨hbreak, before, more, rfl⟩ := hline
    intro hcomma
    obtain ⟨value', hreads'⟩ := (exists_reads_iff (more ++ ("schema: ".toList
      ++ (quote :: (path ++ [quote]) ++ ',' :: rest))) hbreak
        (hbehind line ⟨hbreak, before, more, rfl⟩)).2 hcomma
    have hbefore := hleft.first before _ value' (by simpa using hstands) hreads'
    simp only [heq, List.length_append, List.length_cons] at hbefore
    omega
  case first =>
    refine le_antisymm hle (Nat.le_of_not_lt fun hlt => ?_)
    obtain ⟨s, hs, hhere⟩ := hleft.here
    have ⟨link, rest', hword, _⟩ := hhere
    obtain ⟨line, more, hbreak, rfl⟩ := wordBefore_of_lt hproperty (hword ▸ hs) hlt
    have hline : WordBefore (front' ++ ("schema".toList ++ (line ++ '\n' :: more))) line :=
      ⟨hbreak, front', more, rfl⟩
    rw [hs, List.append_assoc, List.append_assoc, List.append_assoc, List.cons_append] at hstands
    rw [List.append_cancel_left hstands] at hhere
    exact hnone line hline ((exists_reads_iff _ hbreak (hbehind line hline)).1 ⟨value, hhere⟩)

/-- What stands in front of the property in a configuration that names schemas of the database, too. -/
def filterFront : Text := "export default defineConfig(\x7b\n  schemaFilter: [\"public\"],\n  ".toList

/-- A configuration whose property stands behind a line with the word and a comma. -/
def filteredConfig : Text :=
  filterFront ++ ("schema: ".toList ++ ('"' :: ("./src/db/schema.ts".toList ++ ['"'])
    ++ ',' :: "\n\x7d);\n".toList))

/-- A project with this configuration. -/
def filtered : Tree := ⟨[(["drizzle.config.ts".toList], .file (toBytes filteredConfig))]⟩

theorem propertyBehind_filteredConfig :
    PropertyBehind filteredConfig filterFront "./src/db/schema.ts".toList :=
  ⟨⟨'"', _, rfl, rfl⟩, by decide, by decide,
    "export default defineConfig(\x7b\n  schemaFilter: [\"public\"],".toList, [' ', ' '], by decide,
    Or.inr rfl⟩

/-- What stands behind the word on the line in front gives the folder. -/
theorem property_passed_over :
    ∃ front', (∃ value, Leftmost Reads filteredConfig front' value)
      ∧ front'.length < filterFront.length
      ∧ (detectSchemas {} "drizzle".toList).Finds filtered "Filter: [\"public\"]".toList := by
  have hfile : (Survey.firstPresent? (ormConfigPaths {} "drizzle".toList)).Finds filtered
      (some ⟨[], ["drizzle.config.ts".toList]⟩) :=
    Survey.eq_ok_of_mem_toOption (by decide +kernel)
  have htext : (Survey.sourceText? ⟨[], ["drizzle.config.ts".toList]⟩).Finds filtered
      (some filteredConfig) := Survey.eq_ok_of_mem_toOption (by decide +kernel)
  have hfinds : (detectSchemas {} "drizzle".toList).Finds filtered "Filter: [\"public\"]".toList :=
    Survey.eq_ok_of_mem_toOption (by decide +kernel)
  obtain ⟨front', value, hleft, hle, hplace, hsame, -⟩ :=
    schemas_of_property hfile htext propertyBehind_filteredConfig
  refine ⟨front', ⟨value, hleft⟩, lt_of_le_of_ne hle fun heq => ?_, hfinds⟩
  -- the property would give its path
  have hfound := (hplace _).1 hfinds
  rw [hsame heq] at hfound
  exact absurd hfound (by decide)

end ApiScan.Project
