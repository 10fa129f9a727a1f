import ApiScan.Proofs.Route.MainFile.Command
import ApiScan.Proofs.Source.Segment
import ApiScan.Route.Router

set_option autoImplicit false

/-! # Router files that serve routes

A router file that serves routes by calls gives back the routes, whatever its comments hold and
whatever marks of comments the paths hold. Between the calls stand white space, semicolons and
comments. Without the comments nothing of that holds a dot, and a call of a method starts with one:
so a statement gives an entry exactly if a call stands in it, and it is found at the first dot. What is
appended to a source that is closed adds to its routes, whatever it is. -/

namespace ApiScan.Router

open Text Source DocumentSchema Mount

/-! ## Files as they are written -/

/-- What may stand between two calls. -/
inductive Filler where
  /-- White space, line breaks among it. -/
  | blank (c : Char) (isBlank_c : isBlank c = true)
  | semicolon
  /-- A comment up to the end of its line, with the line break. -/
  | lineComment (body : Text) (oneLine : '\n' ∉ body)
  | blockComment (body : Text) (unclosed : ¬ ['*', '/'] <:+: body)

namespace Filler

/-- The text of a filler. -/
def text : Filler → Text
  | blank c _ => [c]
  | semicolon => [';']
  | lineComment body _ => '/' :: '/' :: (body ++ ['\n'])
  | blockComment body _ => '/' :: '*' :: (body ++ ['*', '/'])

/-- The text of a filler without its comment. -/
def code : Filler → Text
  | blank c _ => [c]
  | semicolon => [';']
  | lineComment _ _ => ['\n']
  | blockComment _ _ => []

/-- Whether a filler ends the statement in front of it. -/
def ends : Filler → Bool
  | blank c _ => c = '\n'
  | semicolon => true
  | lineComment _ _ => true
  | blockComment _ _ => false

end Filler

/-- A call that serves a route, such as `router.get('/users/:id', show)`. -/
structure Call where
  method : Method
  isRouterMethod : method ∈ methods
  quote : Char
  isQuote_quote : isQuote quote = true
  /-- The path without its first slash. -/
  path : Text
  plain : ∀ c ∈ path, isQuote c = false ∧ c ≠ '\\' ∧ c ≠ ';' ∧ c ≠ '\n'
  handler : Word

namespace Call

/-- The text of a call behind the quote that ends its path. -/
def ending (call : Call) : Text := ',' :: ' ' :: (call.handler.text ++ [')'])

/-- The text of a call from its dot on. -/
def member (call : Call) : Text :=
  '.' :: call.method.key ++ '(' :: call.quote :: '/' :: (call.path ++ call.quote :: call.ending)

/-- The text of a call. -/
def text (call : Call) : Text := "router".toList ++ call.member

theorem text_eq (call : Call) : call.text = "router".toList ++ call.member := rfl

/-- The route that a call serves. -/
def entry (call : Call) : RouteEntry := ⟨call.method, templateParams ('/' :: call.path)⟩

end Call

/-- A router file: calls with fillers behind them, one of which ends the statement. -/
structure RouterSource where
  lead : List Filler
  calls : List (Call × List Filler)
  ended : ∀ call ∈ calls, ∃ filler ∈ call.2, filler.ends = true

/-- The text of fillers. -/
def fillersText (fillers : List Filler) : Text := fillers.flatMap Filler.text

/-- The text of fillers without their comments. -/
def fillersCode (fillers : List Filler) : Text := fillers.flatMap Filler.code

/-- The text of calls with the fillers behind them. -/
def callsText (calls : List (Call × List Filler)) : Text :=
  calls.flatMap fun call => call.1.text ++ fillersText call.2

/-- The text of calls with the fillers behind them, without the comments. -/
def callsCode (calls : List (Call × List Filler)) : Text :=
  calls.flatMap fun call => call.1.text ++ fillersCode call.2

/-- The text of a file. -/
def RouterSource.text (source : RouterSource) : Text :=
  fillersText source.lead ++ callsText source.calls

variable {fillers : List Filler} {calls : List (Call × List Filler)} {method : Method} {c : Char}
  {s rest : Text}

/-! ## Without comments -/

/-- The keys of methods are words. -/
theorem allWord_key (method : Method) : AllWord method.key := by
  cases method <;> decide

theorem stripComments_fillers (fillers : List Filler) (rest : Text) :
    stripComments (fillersText fillers ++ rest) = fillersCode fillers ++ stripComments rest := by
  induction fillers with
  | nil => rfl
  | cons filler fillers ih =>
      rw [fillersText, fillersCode, List.flatMap_cons, List.flatMap_cons, List.append_assoc,
        List.append_assoc, ← fillersText, ← fillersCode, ← ih]
      generalize fillersText fillers ++ rest = more
      cases filler with
      | blank c hblank =>
          have hc : NoMark [c] := noMark_of_allBlank (by simpa [AllBlank] using hblank)
          exact hc.kept more
      | semicolon => exact NoMark.kept (s := [';']) (by decide) more
      | lineComment body oneLine =>
          have hbreak : stripComments ('\n' :: more) = '\n' :: stripComments more :=
            NoMark.kept (s := ['\n']) (by decide) more
          have hline : stripComments ('/' :: '/' :: (body ++ '\n' :: more)) = stripComments ('\n' :: more) :=
            stripComments_lineComment oneLine (by simp)
          simpa [Filler.text, Filler.code, hbreak] using hline
      | blockComment body unclosed =>
          simpa [Filler.text, Filler.code] using stripComments_blockComment unclosed more

/-- A call is kept: its path is a literal, whatever marks of comments it holds. -/
theorem kept_call (call : Call) : Kept call.text := by
  have hpath : LiteralBody call.quote ('/' :: call.path) := by
    refine literalBody_of_plain (List.forall_mem_cons.2
      ⟨⟨ne_of_isQuote call.isQuote_quote rfl, by decide, by decide⟩, fun c hc => ?_⟩)
    obtain ⟨hquote, hslash, -, hbreak⟩ := call.plain c hc
    exact ⟨ne_of_isQuote call.isQuote_quote hquote, hslash, hbreak⟩
  have hmethod : NoMark ('.' :: call.method.key ++ ['(']) :=
    noMark_append (noMark_append (s := ['.']) (by decide) (noMark_of_allWord (allWord_key _)))
      (by decide)
  have hending : NoMark call.ending :=
    noMark_append (s := [',', ' ']) (by decide)
      (noMark_append (noMark_of_allWord call.handler.allWord) (by decide))
  have hmember : call.member = '.' :: call.method.key ++ ['(']
      ++ (call.quote :: (('/' :: call.path) ++ [call.quote]) ++ call.ending) := by
    simp [Call.member]
  rw [call.text_eq, hmember]
  exact (NoMark.kept (by decide)).append
    (hmethod.kept.append ((kept_literal call.isQuote_quote hpath).append hending.kept))

/-- **A router file without its comments.** -/
theorem stripComments_routerSource (source : RouterSource) :
    stripComments source.text = fillersCode source.lead ++ callsCode source.calls := by
  have hcalls (calls : List (Call × List Filler)) : stripComments (callsText calls) = callsCode calls := by
    induction calls with
    | nil => rfl
    | cons call calls ih =>
        rw [callsText, callsCode, List.flatMap_cons, List.flatMap_cons, List.append_assoc,
          List.append_assoc, ← callsText, ← callsCode, kept_call, stripComments_fillers, ih]
  rw [RouterSource.text, stripComments_fillers, hcalls]

/-! ## Places where a call is found -/

theorem servedPath?_of_ne_dot (hc : c ≠ '.') (s : Text) : servedPath? method (c :: s) = none := by
  have hnone : after? ('.' :: method.key ++ ['(']) (c :: s) = none := if_neg (Ne.symm hc)
  rw [servedPath?, hnone]
  rfl

/-- What holds no dot is passed over. -/
theorem find?_servedPath?_of_not_mem (method : Method) (hs : '.' ∉ s) (rest : Text) :
    find? (servedPath? method) (s ++ rest) = find? (servedPath? method) rest := by
  refine find?_append_of_forall (fun c hc rest => servedPath?_of_ne_dot ?_ rest) rest
  rintro rfl
  exact hs hc

theorem entry?_cons (hc : c ≠ '.') (s : Text) : entry? (c :: s) = entry? s := by
  have hskip (method : Method) :
      find? (servedPath? method) (c :: s) = find? (servedPath? method) s :=
    find?_servedPath?_of_not_mem method (s := [c]) (by simpa using Ne.symm hc) s
  simp only [hskip, entry?]

/-- The call of a method is found at its dot. -/
theorem servedPath?_member (call : Call) (rest : Text) :
    servedPath? call.method (call.member ++ rest) = some ('/' :: call.path) := by
  have hafter : after? ('.' :: call.method.key ++ ['(']) (call.member ++ rest)
      = some (call.quote :: '/' :: (call.path ++ call.quote :: (call.ending ++ rest))) :=
    after?_eq_some_iff.2 (by simp [Call.member])
  have hquote : isBlank call.quote = false := isBlank_eq_false_of_isQuote call.isQuote_quote
  have hpath : ∀ c ∈ call.path, (!isQuote c) = true := fun c hc => by simp [(call.plain c hc).1]
  rw [servedPath?, hafter]
  simp only [Option.bind_eq_bind, Option.bind_some, stripStart_cons hquote]
  rw [List.takeWhile_append_of_pos hpath, List.dropWhile_append_of_pos hpath,
    List.takeWhile_cons_of_neg (by simp [call.isQuote_quote]),
    List.dropWhile_cons_of_neg (by simp [call.isQuote_quote])]
  simp [call.isQuote_quote]

/-- No call is found in a path: behind the path comes a comma. -/
theorem servedPath?_path {quote : Char} (method : Method) (hquote : isQuote quote = true)
    (hs : ∀ c ∈ s, isQuote c = false) (rest : Text) :
    servedPath? method (s ++ quote :: ',' :: rest) = none := by
  rw [servedPath?]
  cases hafter : after? ('.' :: method.key ++ ['(']) (s ++ quote :: ',' :: rest) with
  | none => rfl
  | some found =>
      have hmark : ∀ c ∈ '.' :: method.key ++ ['('], isQuote c = false := by
        cases method <;> decide
      have htext := after?_eq_some_iff.1 hafter
      -- the mark holds no quote, so it ends in the path
      have hfound : ∃ more, s = '.' :: method.key ++ ['('] ++ more ∧ found = more ++ quote :: ',' :: rest := by
        rcases List.append_eq_append_iff.1 htext with ⟨more, hlong, hrest⟩ | ⟨more, hshort, hrest⟩
        · cases more with
          | nil =>
              rw [List.append_nil] at hlong
              exact ⟨[], by rw [hlong, List.append_nil], hrest.symm⟩
          | cons d more =>
              obtain ⟨rfl, -⟩ := List.cons.inj hrest
              exact nomatch hquote.symm.trans (hmark quote (by rw [hlong]; simp))
        · exact ⟨more, hshort, hrest⟩
      obtain ⟨more, rfl, rfl⟩ := hfound
      have hmore : ∀ c ∈ more, isQuote c = false := fun c hc => hs c (List.mem_append_right _ hc)
      simp only [Option.bind_eq_bind, Option.bind_some]
      -- behind white space stands a character of the path or its closing quote
      cases hdrop : more.dropWhile isBlank with
      | nil =>
          have hblank : AllBlank more := fun c hc => by
            simpa using List.dropWhile_eq_nil_iff.1 hdrop c hc
          rw [stripStart_of_blank hblank, stripStart_cons (isBlank_eq_false_of_isQuote hquote)]
          rfl
      | cons d tail =>
          have hd : isQuote d = false :=
            hmore d ((List.dropWhile_suffix isBlank).subset (by rw [hdrop]; exact List.mem_cons_self))
          have hstrip : stripStart (more ++ quote :: ',' :: rest) = d :: (tail ++ quote :: ',' :: rest) := by
            rw [stripStart, List.dropWhile_append, hdrop]
            rfl
          rw [hstrip]
          split
          · next he =>
              obtain ⟨rfl, -⟩ := List.cons.inj he
              simp [hd]
          · rfl

/-- No call is found from inside a path on. -/
theorem find?_servedPath?_path {quote : Char} (hquote : isQuote quote = true)
    (hs : ∀ c ∈ s, isQuote c = false) (hrest : '.' ∉ rest) :
    find? (servedPath? method) (s ++ quote :: ',' :: rest) = none := by
  induction s with
  | nil =>
      have hdot : '.' ∉ quote :: ',' :: rest := by
        have hne : '.' ≠ quote := ne_of_isQuote hquote rfl
        simp [hne, hrest]
      have hnone := find?_servedPath?_of_not_mem method hdot []
      rw [List.append_nil] at hnone
      rw [List.nil_append, hnone]
      rfl
  | cons c s ih =>
      have hnone := servedPath?_path method hquote hs rest
      obtain ⟨-, hs⟩ := List.forall_mem_cons.1 hs
      rw [List.cons_append] at hnone
      rw [List.cons_append, find?_cons, hnone, ih hs]
      rfl

/-- The call of one method is no call of another one. -/
theorem after?_other {other : Method} (hne : other ≠ method) (rest : Text) :
    after? ('.' :: other.key ++ ['(']) ('.' :: method.key ++ '(' :: rest) = none := by
  cases method <;> cases other <;> first | rfl | exact absurd rfl hne

theorem find?_servedPath?_member (call : Call) (hrest : '.' ∉ rest) :
    find? (servedPath? method) (call.member ++ rest)
      = if method = call.method then some ('/' :: call.path) else none := by
  have hdot : '.' ∉ call.method.key ++ ['('] := by
    cases call.method <;> decide
  have hending : '.' ∉ ' ' :: (call.handler.text ++ [')']) ++ rest := by
    have hhandler : '.' ∉ call.handler.text := fun hc => absurd (call.handler.allWord '.' hc) (by decide)
    simp [hhandler, hrest]
  have htext : call.member ++ rest = '.' :: (call.method.key ++ ['('] ++ ([call.quote]
      ++ (('/' :: call.path) ++ call.quote :: ',' :: (' ' :: (call.handler.text ++ [')']) ++ rest)))) := by
    simp [Call.member, Call.ending]
  have hquote : '.' ∉ [call.quote] := by
    rw [List.mem_singleton]
    exact ne_of_isQuote call.isQuote_quote rfl
  have hpath : ∀ c ∈ '/' :: call.path, isQuote c = false :=
    List.forall_mem_cons.2 ⟨rfl, fun c hc => (call.plain c hc).1⟩
  by_cases hmethod : method = call.method
  · have hfound := servedPath?_member call rest
    rw [htext] at hfound ⊢
    rw [hmethod, find?_cons, hfound, if_pos rfl]
    rfl
  · -- another method: not at the dot, nor in the path, nor behind it
    have hnone : servedPath? method (call.member ++ rest) = none := by
      have hafter := after?_other hmethod
        (call.quote :: '/' :: (call.path ++ call.quote :: call.ending) ++ rest)
      rw [servedPath?, Call.member, List.append_assoc, List.cons_append (a := '('), hafter]
      rfl
    rw [htext] at hnone ⊢
    rw [find?_cons, hnone, find?_servedPath?_of_not_mem _ hdot, find?_servedPath?_of_not_mem _ hquote,
      find?_servedPath?_path call.isQuote_quote hpath hending, if_neg hmethod]
    rfl

/-- The entry of a statement is the route of the call in it. -/
theorem entry?_member (call : Call) (hrest : '.' ∉ rest) :
    entry? (call.member ++ rest) = some call.entry := by
  have hmethods : call.method ∈ methods := call.isRouterMethod
  unfold entry?
  simp only [find?_servedPath?_member call hrest]
  -- the methods are tried in turn, and only that of the call finds a path
  generalize hmethod : call.method = method at hmethods
  have hentry : call.entry = ⟨method, templateParams ('/' :: call.path)⟩ := by rw [Call.entry, hmethod]
  rw [hentry]
  cases method with
  | head => exact absurd hmethods (by decide)
  | options => exact absurd hmethods (by decide)
  | _ => rfl

/-! ## Statements -/

/-- The entries of a source text without comments. -/
def entriesIn (s : Text) : List RouteEntry := (pieces isEnd s).filterMap entry?

/-- The entries of a text that is cut where a statement ends. -/
theorem entriesIn_append_end (hc : isEnd c = true) (s rest : Text) :
    entriesIn (s ++ c :: rest) = entriesIn s ++ entriesIn rest := by
  rw [entriesIn, pieces_append_of_pos hc, List.filterMap_append]
  rfl

theorem entriesIn_of_forall (hs : ∀ c ∈ s, isEnd c = false) {found : Option RouteEntry}
    (hfound : entry? s = found) : entriesIn s = found.toList := by
  rw [entriesIn, pieces_of_forall hs, List.filterMap_cons, List.filterMap_nil, hfound]
  cases found <;> rfl

/-- A character in front adds nothing, unless it is a dot. -/
theorem entriesIn_cons (hc : c ≠ '.') (s : Text) : entriesIn (c :: s) = entriesIn s := by
  cases hend : isEnd c with
  | true => exact entriesIn_append_end hend [] s
  | false =>
      cases hs : pieces isEnd s with
      | nil => exact absurd hs (pieces_ne_nil s)
      | cons piece more =>
          rw [entriesIn, entriesIn, pieces, if_neg (by simp [hend]), hs]
          simp only [List.filterMap_cons, entry?_cons hc]

theorem entriesIn_append (hs : '.' ∉ s) (rest : Text) : entriesIn (s ++ rest) = entriesIn rest := by
  induction s with
  | nil => rfl
  | cons c s ih =>
      rw [List.mem_cons, not_or] at hs
      rw [List.cons_append, entriesIn_cons (Ne.symm hs.1), ih hs.2]

theorem not_mem_dot_fillersCode (fillers : List Filler) : '.' ∉ fillersCode fillers := by
  intro hc
  obtain ⟨filler, -, hc⟩ := List.mem_flatMap.1 hc
  cases filler with
  | blank c hblank =>
      obtain rfl : '.' = c := List.mem_singleton.1 hc
      exact absurd hblank (by decide)
  | semicolon => exact absurd hc (by decide)
  | lineComment body oneLine => exact absurd (List.mem_singleton.1 hc) (by decide)
  | blockComment body unclosed => exact absurd hc List.not_mem_nil

/-- Where a filler ends the statement, an ending character is left of the fillers. -/
theorem exists_fillersCode_eq (h : ∃ filler ∈ fillers, filler.ends = true) :
    ∃ front c back, fillersCode fillers = front ++ c :: back ∧ isEnd c = true ∧
      ∀ d ∈ front, isEnd d = false := by
  have hmem : ∃ c ∈ fillersCode fillers, isEnd c = true := by
    obtain ⟨filler, hfiller, hends⟩ := h
    cases filler with
    | blank c hblank =>
        refine ⟨c, List.mem_flatMap.2 ⟨_, hfiller, List.mem_singleton_self c⟩, ?_⟩
        have hc : c = '\n' := by simpa [Filler.ends] using hends
        simp [isEnd, hc]
    | semicolon => exact ⟨';', List.mem_flatMap.2 ⟨_, hfiller, List.mem_singleton_self _⟩, rfl⟩
    | lineComment body oneLine =>
        exact ⟨'\n', List.mem_flatMap.2 ⟨_, hfiller, List.mem_singleton_self _⟩, rfl⟩
    | blockComment body unclosed => cases hends
  obtain ⟨c, hc, hend⟩ := hmem
  -- up to the first such character
  have hsplit := List.takeWhile_append_dropWhile (p := fun d => !isEnd d) (l := fillersCode fillers)
  cases hdrop : (fillersCode fillers).dropWhile fun d => !isEnd d with
  | nil =>
      have hnone := List.dropWhile_eq_nil_iff.1 hdrop c hc
      simp [hend] at hnone
  | cons d back =>
      refine ⟨_, d, back, by rw [← hdrop, hsplit], ?_, fun e he => ?_⟩
      · have hhead := List.head?_dropWhile_not (fun d => !isEnd d) (fillersCode fillers)
        rw [hdrop] at hhead
        simpa using hhead
      · simpa using List.mem_takeWhile_imp he

/-- A call stands in one statement. -/
theorem isEnd_of_mem_member (call : Call) (hc : c ∈ call.member) : isEnd c = false := by
  have hword {w : Text} (hw : AllWord w) : ∀ c ∈ w, isEnd c = false := fun c hc =>
    isEnd_eq_false (Or.inl (hw c hc))
  have hquote : isEnd call.quote = false := isEnd_eq_false (Or.inr call.isQuote_quote)
  simp only [Call.member, Call.ending, List.cons_append, List.mem_cons, List.mem_append,
    List.not_mem_nil, or_false] at hc
  rcases hc with rfl | hkey | rfl | rfl | rfl | hpath | rfl | rfl | rfl | hhandler | rfl
  · rfl
  · exact hword (allWord_key _) c hkey
  · rfl
  · exact hquote
  · rfl
  · obtain ⟨-, -, hsemicolon, hbreak⟩ := call.plain c hpath
    simp [isEnd, hsemicolon, hbreak]
  · exact hquote
  · rfl
  · rfl
  · exact hword call.handler.allWord c hhandler
  · rfl

/-- **One call gives one entry**, and what stands behind it goes on as if it were not there. -/
theorem entriesIn_call (call : Call) (h : ∃ filler ∈ fillers, filler.ends = true) (rest : Text) :
    entriesIn (call.text ++ (fillersCode fillers ++ rest)) = call.entry :: entriesIn rest := by
  obtain ⟨front, c, back, hcode, hend, hfront⟩ := exists_fillersCode_eq h
  have hdot : '.' ∉ front ∧ '.' ∉ back := by
    have hnone := not_mem_dot_fillersCode fillers
    rw [hcode] at hnone
    simp only [List.mem_append, List.mem_cons, not_or] at hnone
    exact ⟨hnone.1, hnone.2.2⟩
  have hstatement : ∀ d ∈ call.member ++ front, isEnd d = false := fun d hd =>
    (List.mem_append.1 hd).elim (isEnd_of_mem_member call) (hfront d)
  calc entriesIn (call.text ++ (fillersCode fillers ++ rest))
      = entriesIn ("router".toList ++ ((call.member ++ front) ++ c :: (back ++ rest))) := by
        rw [hcode, call.text_eq]
        simp only [List.append_assoc, List.cons_append]
    _ = entriesIn (call.member ++ front) ++ entriesIn (back ++ rest) := by
        rw [entriesIn_append (by decide), entriesIn_append_end hend]
    _ = call.entry :: entriesIn rest := by
        rw [entriesIn_of_forall hstatement (entry?_member call hdot.1), entriesIn_append hdot.2]
        rfl

/-- **A router file gives back the routes that it serves**: one entry for each call, in order. -/
theorem entries_routerSource (source : RouterSource) :
    entries source.text = source.calls.map fun call => call.1.entry := by
  have hcalls (calls : List (Call × List Filler))
      (h : ∀ call ∈ calls, ∃ filler ∈ call.2, filler.ends = true) :
      entriesIn (callsCode calls) = calls.map fun call => call.1.entry := by
    induction calls with
    | nil => rfl
    | cons call calls ih =>
        obtain ⟨hcall, hcalls⟩ := List.forall_mem_cons.1 h
        rw [callsCode, List.flatMap_cons, List.append_assoc, ← callsCode, entriesIn_call call.1 hcall,
          ih hcalls]
        rfl
  calc entries source.text
      = entriesIn (stripComments source.text) := rfl
    _ = entriesIn (callsCode source.calls) := by
        rw [stripComments_routerSource, entriesIn_append (not_mem_dot_fillersCode _)]
    _ = source.calls.map fun call => call.1.entry := hcalls source.calls source.ended

/-- A route that is commented out serves nothing, and marks of comments in a path are text. -/
example : entries ("// router.get('/old', h);\nrouter.get('/a//b/:id', h); /* router.put('/x', h); */\n"
    ++ "router.post(\"/c/*\", h)\n").toList
      = [⟨.get, "/a//b/\x7bid\x7d".toList⟩, ⟨.post, "/c/*".toList⟩] := by
  decide +kernel

end ApiScan.Router

/-! ## Appending to a source

Where a closed text ends and a line break or a semicolon follows, the scanner of comments is in its
first state and a statement has just ended. So a source that goes on there is read as two: the
statements of the closed text, and then those of what follows, whatever that is. -/

namespace ApiScan.Mount

open Text Source

variable {c : Char} {s : Text}

theorem statements_eq (s : Text) : statements s = pieces isEnd (stripComments s) := rfl

/-- What ends a statement is kept. -/
theorem stripComments_end (hc : isEnd c = true) (s : Text) :
    stripComments (c :: s) = c :: stripComments s := by
  have hmark : NoMark [c] := by
    rw [NoMark, List.forall_mem_singleton]
    rcases isEnd_iff.1 hc with rfl | rfl <;> decide
  exact hmark.kept s

theorem ne_of_isEnd {d : Char} (hc : isEnd c = true) (hd : isEnd d = false) :
    (c :: s).head? ≠ some d := by
  rw [List.head?_cons]
  intro he
  obtain rfl := Option.some.inj he
  exact nomatch hc.symm.trans hd

/-- **The statements of a source that goes on behind a closed text** are those of the closed text and
    those of the rest. -/
theorem statements_append (source : ClosedSource) (hc : isEnd c = true) (s : Text) :
    statements (source.text ++ c :: s) = statements source.text ++ statements s := by
  rw [statements_eq, statements_eq, statements_eq,
    source.stripComments_append (ne_of_isEnd hc rfl) (ne_of_isEnd hc rfl), stripComments_end hc,
    pieces_append_of_pos hc, source.stripComments_text]

end ApiScan.Mount

namespace ApiScan.Router

open Source Mount

theorem entries_append_of_isEnd {c : Char} (source : ClosedSource) (hc : isEnd c = true) (more : Text) :
    entries (source.text ++ c :: more) = entries source.text ++ entries more := by
  rw [entries, statements_append source hc, List.filterMap_append]
  rfl

/-- **Appending to a router file adds to its routes**: those of a closed text come first, all of them
    and in order, and then those of what follows, which need be neither closed nor well formed. -/
theorem entries_closed_append (source : ClosedSource) (more : Text) :
    entries (source.text ++ '\n' :: more) = entries source.text ++ entries more
      ∧ entries (source.text ++ ';' :: more) = entries source.text ++ entries more :=
  ⟨entries_append_of_isEnd source rfl more, entries_append_of_isEnd source rfl more⟩

/-- A literal and a comment that are never closed take nothing from what stands in front of them. -/
example : entries "r.get('/*', h) /* ' */\nr.put('/a\n/* r.post(\"/b\", h); `".toList
    = entries "r.get('/*', h) /* ' */".toList ++ entries "r.put('/a\n/* r.post(\"/b\", h); `".toList := by
  decide +kernel

end ApiScan.Router
