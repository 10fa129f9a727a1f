import ApiScan.Proofs.Route.Parameter

set_option autoImplicit false

/-! # Paths in the form of a document

A path is literal text with parameters in it. Its form in a document has every parameter between
braces and the literal text as it is, so no parameter in the form of a router is left, a second pass
changes nothing, and the parts of a path between slashes can be rewritten one by one. -/

namespace ApiScan.Router

variable {s front rest name : Text} {c : Char}

/-! ## Where no parameter starts -/

theorem parameter?_eq_none_iff :
    parameter? (c :: s) = none ↔ (c = ':' → ∀ d, s.head? = some d → Text.isNameChar d = false) := by
  constructor
  · rintro h rfl
    exact parameter?_colon_eq_none h
  · intro h
    rw [Option.eq_none_iff_forall_ne_some]
    rintro ⟨new, rest⟩ hfound
    obtain ⟨rfl, hname, -⟩ := parameter?_eq_some_iff.1 hfound
    cases s with
    | nil => exact hname rfl
    | cons d s => exact hname (List.takeWhile_cons_of_neg (by simp [h rfl d rfl]))

theorem templateParams_cons (h : parameter? (c :: s) = none) :
    templateParams (c :: s) = c :: templateParams s := Text.replaceAll_of_not_found h

/-- A text that names no parameter is kept. -/
theorem templateParams_of_not_namesParameter (h : ¬ NamesParameter s) : templateParams s = s := by
  induction s with
  | nil => rfl
  | cons c s ih =>
      rw [namesParameter_cons, not_or] at h
      have hnone : parameter? (c :: s) = none := by
        refine parameter?_eq_none_iff.2 fun hc d hd => ?_
        rw [← Bool.not_eq_true]
        exact fun hname => h.1 ⟨hc, d, hname, hd⟩
      rw [templateParams_cons hnone, ih h.2]

/-! ## Where a name ends -/

/-- A parameter whose name is a whole run gets braces. -/
theorem templateParams_parameter (hne : name ≠ [])
    (hname : ∀ d ∈ name, Text.isNameChar d = true)
    (hstop : ∀ d, rest.head? = some d → Text.isNameChar d = false) :
    templateParams (':' :: (name ++ rest)) = '{' :: name ++ ['}'] ++ templateParams rest := by
  obtain ⟨htake, hdrop⟩ := Text.takeWhile_append_stop hname hstop
  have hfound : parameter? (':' :: (name ++ rest)) = some ('{' :: name ++ ['}'], rest) :=
    parameter?_eq_some_iff.2 ⟨rfl, by rwa [htake], by rw [htake], hdrop.symm⟩
  exact Text.replaceAll_of_found parameter?_consumes hfound

/-- No parameter reaches over a place where no name goes on. -/
theorem templateParams_append
    (hstop : ∀ d, rest.head? = some d → Text.isNameChar d = false) :
    templateParams (front ++ rest) = templateParams front ++ templateParams rest := by
  induction hlength : front.length using Nat.strong_induction_on generalizing front with
  | _ n ih =>
      cases front with
      | nil => rfl
      | cons c front =>
          cases hc : parameter? (c :: front) with
          | none =>
              have hlonger : parameter? (c :: (front ++ rest)) = none := by
                rw [parameter?_eq_none_iff] at hc ⊢
                cases front with
                | nil => exact fun _ => hstop
                | cons e front => exact hc
              rw [List.cons_append, templateParams_cons hlonger, templateParams_cons hc,
                ih front.length (by simp [← hlength]) rfl]
              rfl
          | some found =>
              obtain ⟨new, behind⟩ := found
              have hshort : behind.length < n := hlength ▸ parameter?_consumes _ _ _ hc
              obtain ⟨rfl, hne, -, rfl⟩ := parameter?_eq_some_iff.1 hc
              have hname : ∀ d ∈ front.takeWhile Text.isNameChar, Text.isNameChar d = true :=
                fun d => List.mem_takeWhile_imp
              have hbehind : ∀ d, (front.dropWhile Text.isNameChar).head? = some d →
                  Text.isNameChar d = false := fun d => Text.not_of_head?_dropWhile
              have hnext : ∀ d, (front.dropWhile Text.isNameChar ++ rest).head? = some d →
                  Text.isNameChar d = false := fun d => Text.not_of_head?_append hbehind hstop
              have hsplit := List.takeWhile_append_dropWhile (p := Text.isNameChar) (l := front)
              calc templateParams (':' :: front ++ rest)
                  = templateParams (':' :: (front.takeWhile Text.isNameChar
                      ++ (front.dropWhile Text.isNameChar ++ rest))) := by
                    rw [← List.append_assoc, hsplit]
                    rfl
                _ = '{' :: front.takeWhile Text.isNameChar ++ ['}']
                      ++ (templateParams (front.dropWhile Text.isNameChar) ++ templateParams rest) := by
                    rw [templateParams_parameter hne hname hnext, ih _ hshort rfl]
                _ = templateParams (':' :: (front.takeWhile Text.isNameChar
                      ++ front.dropWhile Text.isNameChar)) ++ templateParams rest := by
                    rw [templateParams_parameter hne hname hbehind, List.append_assoc _ _ (templateParams rest)]
                _ = templateParams (':' :: front) ++ templateParams rest := by rw [hsplit]

/-! ## Paths in pieces -/

/-- A parameter of a path, and the literal text up to the next one or to the end. -/
structure Param where
  name : Text
  behind : Text
  ne_nil : name ≠ []
  named : ∀ c ∈ name, Text.isNameChar c = true
  /-- The name goes as far as it can. -/
  stops : ∀ c, behind.head? = some c → Text.isNameChar c = false
  literal : ¬ NamesParameter behind

/-- A path as the literal text in front and its parameters. Literal text may hold a colon, but none
    that a name follows. -/
structure Pieces where
  front : Text
  params : List Param
  literal : ¬ NamesParameter front

/-- A parameter in the form of a router. -/
def routerForm (name : Text) : Text := ':' :: name

/-- A parameter in the form of a document. -/
def documentForm (name : Text) : Text := '{' :: name ++ ['}']

/-- The text of some parameters, each in a form and with the literal text behind it. -/
def paramsText (form : Text → Text) (params : List Param) : Text :=
  params.flatMap fun param => form param.name ++ param.behind

/-- The text of a path with its parameters in a form. -/
def Pieces.text (form : Text → Text) (pieces : Pieces) : Text :=
  pieces.front ++ paramsText form pieces.params

/-- The text of some parameters of a router goes on no name. -/
theorem head?_paramsText {params : List Param} (h : (paramsText routerForm params).head? = some c) :
    Text.isNameChar c = false := by
  cases params with
  | nil => exact nomatch h
  | cons param params =>
      obtain rfl : ':' = c := Option.some.inj h
      rfl

theorem templateParams_literal {params : List Param} (h : ¬ NamesParameter s) :
    templateParams (s ++ paramsText routerForm params)
      = s ++ templateParams (paramsText routerForm params) := by
  rw [templateParams_append fun _ => head?_paramsText, templateParams_of_not_namesParameter h]

theorem templateParams_paramsText (params : List Param) :
    templateParams (paramsText routerForm params) = paramsText documentForm params := by
  induction params with
  | nil => rfl
  | cons param params ih =>
      have hstop : ∀ c, (param.behind ++ paramsText routerForm params).head? = some c →
          Text.isNameChar c = false :=
        fun c => Text.not_of_head?_append param.stops fun d => head?_paramsText
      calc templateParams (paramsText routerForm (param :: params))
          = templateParams (':' :: (param.name
              ++ (param.behind ++ paramsText routerForm params))) := by
            simp [paramsText, routerForm]
        _ = documentForm param.name ++ (param.behind ++ paramsText documentForm params) := by
            rw [templateParams_parameter param.ne_nil param.named hstop,
              templateParams_literal param.literal, ih]
            rfl
        _ = paramsText documentForm (param :: params) := by simp [paramsText]

/-- Every path is in pieces. -/
theorem exists_pieces (path : Text) : ∃ pieces : Pieces, path = pieces.text routerForm := by
  induction hlength : path.length using Nat.strong_induction_on generalizing path with
  | _ n ih =>
      cases path with
      | nil => exact ⟨⟨[], [], not_namesParameter_nil⟩, rfl⟩
      | cons c s =>
          cases hc : parameter? (c :: s) with
          | none =>
              obtain ⟨pieces, rfl⟩ := ih s.length (by simp [← hlength]) s rfl
              have hliteral : ¬ NamesParameter (c :: pieces.front) := by
                rw [namesParameter_cons]
                rintro (⟨hcolon, d, hd, hhead⟩ | hfront)
                · have hhead' : (pieces.text routerForm).head? = some d := by
                    rw [Pieces.text, List.head?_append, hhead]
                    rfl
                  rw [parameter?_eq_none_iff.1 hc hcolon d hhead'] at hd
                  exact Bool.noConfusion hd
                · exact pieces.literal hfront
              exact ⟨⟨c :: pieces.front, pieces.params, hliteral⟩, rfl⟩
          | some found =>
              obtain ⟨new, behind⟩ := found
              have hshort : behind.length < n := hlength ▸ parameter?_consumes _ _ _ hc
              obtain ⟨rfl, hne, -, hbehind⟩ := parameter?_eq_some_iff.1 hc
              obtain ⟨pieces, hpieces⟩ := ih behind.length hshort behind rfl
              have hstops : ∀ d, pieces.front.head? = some d → Text.isNameChar d = false := by
                intro d hd
                refine Text.not_of_head?_dropWhile (s := s) ?_
                rw [← hbehind, hpieces, Pieces.text, List.head?_append, hd]
                rfl
              refine ⟨⟨[], ⟨s.takeWhile Text.isNameChar, pieces.front, hne,
                fun d => List.mem_takeWhile_imp, hstops, pieces.literal⟩ :: pieces.params,
                not_namesParameter_nil⟩, ?_⟩
              calc ':' :: s
                  = ':' :: (s.takeWhile Text.isNameChar ++ pieces.text routerForm) := by
                    rw [← hpieces, hbehind, List.takeWhile_append_dropWhile]
                _ = _ := by simp [Pieces.text, paramsText, routerForm]

/-- **A path in the form of a document** names no parameter in the form of a router, and a second pass
    keeps it. Parts between slashes are rewritten one by one. Every path is literal text with
    parameters `:name` in it, and its form in the document has the same literal text in the same
    order, with `{name}` for each of them. -/
theorem templateParams_keeps_literals (path : Text) :
    ¬ NamesParameter (templateParams path)
      ∧ templateParams (templateParams path) = templateParams path
      ∧ (∀ front rest, templateParams (front ++ '/' :: rest)
          = templateParams front ++ '/' :: templateParams rest)
      ∧ (∃ pieces : Pieces, path = pieces.text routerForm)
      ∧ ∀ pieces : Pieces, templateParams (pieces.text routerForm) = pieces.text documentForm := by
  have hnone := not_namesParameter_templateParams path
  refine ⟨hnone, templateParams_of_not_namesParameter hnone,
    fun front rest => ?_, exists_pieces path, fun pieces => ?_⟩
  · have hslash : ∀ d, ('/' :: rest).head? = some d → Text.isNameChar d = false := by
      rintro _ ⟨⟩
      rfl
    rw [templateParams_append hslash, templateParams_cons rfl]
  · rw [Pieces.text, templateParams_literal pieces.literal, templateParams_paramsText]
    rfl

/-- A parameter in front of another one, a colon that no name follows, and one that a colon follows. -/
example : templateParams "/u/:id:kind/a:/::x-:y".toList = "/u/{id}{kind}/a:/:{x}-{y}".toList := by
  decide

end ApiScan.Router
