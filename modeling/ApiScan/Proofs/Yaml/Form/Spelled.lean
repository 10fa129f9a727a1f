import ApiScan.Proofs.Yaml.Form.Node
import ApiScan.Proofs.Yaml.Form.Scanned

set_option autoImplicit false

/-! # The tokens of a document

The form of a node is read as the tokens that spell it. A block collection is opened by the column
of its first entry and closed by that of the next token behind it; a list below its key opens no
block of its own. -/

namespace ApiScan.Yaml

/-! ## Tokens -/

/-- The token of a name. -/
def nameToken (name : Points) : Token := .scalar name (Style.ofPoints name = .plain)

/-- The token of a scalar. -/
def scalarTokens (doc : Json) : List Token :=
  match scalarText? doc with
  | some (s, plain) => [.scalar (Points.ofText s) plain]
  | none => []

mutual

/-- The tokens of a node behind a lead. -/
def nodeTokens (lead : Lead) : Json → List Token
  | .list [] => [.flowSequenceStart, .flowSequenceEnd]
  | .list (item :: items) =>
    match lead with
    | .mark => .blockSequenceStart :: (itemTokens (item :: items) ++ [.blockEnd])
    | .key => itemTokens (item :: items)
  | .object [] => [.flowMappingStart, .flowMappingEnd]
  | .object (field :: fields) => .blockMappingStart :: (fieldTokens (field :: fields) ++ [.blockEnd])
  | doc => scalarTokens doc

/-- The tokens of the items of a list. -/
def itemTokens : List Json → List Token
  | [] => []
  | item :: items => .blockEntry :: (nodeTokens .mark item ++ itemTokens items)

/-- The tokens of the fields of an object. -/
def fieldTokens : List (Points × Json) → List Token
  | [] => []
  | (name, value) :: fields =>
    .key :: nameToken name :: .value :: (nodeTokens (leadOf name) value ++ fieldTokens fields)

end

theorem nameToken_ofText (s : Text) :
    nameToken (Points.ofText s) = .scalar (Points.ofText s) (isPlainText s) := by
  have hstyle : Style.ofPoints (Points.ofText s) = Style.ofText s := by
    rw [Style.ofPoints, Points.toText?_ofText]
  rw [nameToken, hstyle, isPlainText]

namespace Scan

variable {s out tail : Text} {indent n : Nat} {at_ : Cursor} {tokens tokens' : List Token}
  {outer outer' : List Int} {lead : Lead}

/-- The reader of a node starts behind its lead. -/
def behindLead (lead : Lead) (at_ : Cursor) (tokens : List Token) (indent : Int) (outer : List Int) :
    Scan :=
  between (lead = .mark) at_ tokens indent outer

/-- Where a node is read: further in than the block around it, by one column behind a mark. -/
structure ReadsBehind (lead : Lead) (indent : Nat) (at_ : Cursor) : Prop where
  further : indent < at_.column
  mark : lead = .mark → at_.column = indent + 1

theorem tokenGap_of_lead (lead : Lead) (indent : Nat) :
    TokenGap (lead.gap indent) (decide (lead = .key)) := by
  cases lead with
  | mark => exact .blank
  | key => exact .line indent

/-! ## Starts of entries -/

theorem endsToken_gap (lead : Lead) (m : Nat) (rest : Text) :
    endsToken (lead.gap m ++ rest).head? = true := by
  cases lead <;> rfl

theorem endsToken_of_scalarNode {doc : Json} (h : ScalarNode indent doc out) (rest : Text) :
    endsToken (out ++ rest).head? = true := by
  obtain ⟨s, plain, body, -, -, rfl⟩ := h
  rfl

/-- A node stands apart from its lead. -/
theorem endsToken_of_nodeForm : ∀ {doc : Json} (rest : Text), NodeForm lead indent doc out →
    endsToken (out ++ rest).head? = true
  | .null, rest, h => endsToken_of_scalarNode h rest
  | .bool _, rest, h => endsToken_of_scalarNode h rest
  | .int _, rest, h => endsToken_of_scalarNode h rest
  | .float _, rest, h => endsToken_of_scalarNode h rest
  | .str _, rest, h => endsToken_of_scalarNode h rest
  | .list [], rest, h => by
      obtain rfl : out = [' ', '[', ']'] := h
      rfl
  | .list (item :: items), rest, h => by
      obtain ⟨front, more, rfl, -⟩ := h
      rw [List.append_assoc]
      exact endsToken_gap lead _ _
  | .object [], rest, h => by
      obtain rfl : out = [' ', '\x7b', '\x7d'] := h
      rfl
  | .object (field :: fields), rest, h => by
      obtain ⟨s, head, front, more, -, rfl, hname, -⟩ := h
      generalize leadOf field.1 = inner at hname
      cases inner with
      | key =>
          obtain ⟨key, rfl, -⟩ := hname
          simp only [List.append_assoc]
          exact endsToken_gap lead _ _
      | mark =>
          obtain ⟨key, rfl, -⟩ := hname
          simp only [List.append_assoc]
          exact endsToken_gap lead _ _

theorem startsLine_of_itemsForm {gap : Text} {item : Json} {items : List Json}
    (h : ItemsForm gap indent (item :: items) out) :
    ∃ u, out = gap ++ u ∧ ∀ rest, StartsLine (u ++ rest) := by
  obtain ⟨front, rest, rfl, hfront, -⟩ := h
  refine ⟨_, rfl, fun more => startsLine_mark (by decide) ?_⟩
  show endsToken ((front ++ rest) ++ more).head? = true
  rw [List.append_assoc]
  exact endsToken_of_nodeForm _ hfront

theorem startsLine_of_nameForm {gap head : Text} (h : NameForm gap indent s head lead) :
    ∃ u, head = gap ++ u ∧ ∀ rest, StartsLine (u ++ rest) := by
  cases lead with
  | key =>
      obtain ⟨key, rfl, hkey⟩ := h
      refine ⟨_, rfl, fun rest => ?_⟩
      rw [List.append_assoc]
      exact hkey.startsLine.append_colon rest
  | mark =>
      obtain ⟨key, rfl, -⟩ := h
      exact ⟨_, rfl, fun rest => startsLine_mark (by decide) rfl⟩

theorem startsLine_of_fieldsForm {gap : Text} {field : Points × Json} {fields : List (Points × Json)}
    (h : FieldsForm gap indent (field :: fields) out) :
    ∃ u, out = gap ++ u ∧ ∀ rest, StartsLine (u ++ rest) := by
  obtain ⟨name, value⟩ := field
  obtain ⟨s, head, front, rest, -, rfl, hname, -⟩ := h
  obtain ⟨u, rfl, hu⟩ := startsLine_of_nameForm hname
  refine ⟨u ++ (front ++ rest), List.append_assoc .., fun more => ?_⟩
  rw [List.append_assoc]
  exact hu _

/-- The first entry of a collection behind a lead stands at the indentation of the collection. -/
theorem column_skip_gap {rest : Text} {m : Nat} (h : ReadsBehind lead indent at_)
    (hm : lead = .mark → m = indent + 2) (hat : at_.ahead = lead.gap m ++ rest) :
    (at_.skip (lead.gap m).length).column = m := by
  cases lead with
  | mark =>
      have hnext := Cursor.next_of_takesColumn hat (by decide)
      show at_.next.column = m
      rw [hnext, hm rfl, h.mark rfl]
  | key =>
      show (at_.skip (lineStart m).length).column = m
      rw [length_lineStart, Cursor.skip_lineStart hat]

/-! ## Names -/

/-- A name that is a key of its own. -/
theorem reaches_ownKey {gap key rest : Text} {indent' : Int} (hkey : KeyForm (indent + 2) s key)
    (hat : at_.ahead = gap ++ (key ++ ':' :: rest)) (hrest : endsToken rest.head? = true)
    (hcolumn : (at_.skip gap.length).column = indent)
    (hopens : Opens .blockMappingStart indent tokens indent' outer tokens' outer') :
    Reaches (between true (at_.skip gap.length) tokens indent' outer)
        (behindLead .key (at_.skip (gap ++ (key ++ [':'])).length)
          (.value :: .scalar (Points.ofText s) (isPlainText s) :: .key :: tokens') indent outer')
      ∧ ReadsBehind .key indent (at_.skip (gap ++ (key ++ [':'])).length) := by
  have hle := hopens.le
  have hplace : at_.skip (gap ++ (key ++ [':'])).length = (at_.skip gap.length).skip (key.length + 1) := by
    rw [← Cursor.skip_add]
    simp
  have hat' : (at_.skip gap.length).ahead = key ++ ':' :: rest := Cursor.ahead_skip_length hat
  rw [hplace]
  refine ⟨reaches_key hkey (by omega) (by omega) hat' hrest hcolumn hopens, ?_, fun he => ?_⟩
  · have hcolon : ∀ c ∈ key ++ [':'], TakesColumn c := List.forall_mem_append.2 ⟨hkey.chars, by decide⟩
    have hat'' : (at_.skip gap.length).ahead = key ++ [':'] ++ rest := by simpa using hat'
    have hskip := Cursor.skip_of_takesColumn hat'' hcolon
    rw [List.length_append, List.length_singleton] at hskip
    rw [hskip, hcolumn]
    show indent < indent + _
    omega
  · exact absurd he (by decide)

/-- A name behind a mark, with its colon on the next line. -/
theorem reaches_markedKey {gap key rest : Text} {indent' : Int}
    (hkey : ScalarForm (indent + 2) (isPlainText s) s key)
    (hat : at_.ahead = gap ++ '?' :: ' ' :: (key ++ (lineStart indent ++ ':' :: rest)))
    (hrest : endsToken rest.head? = true) (hcolumn : (at_.skip gap.length).column = indent)
    (hopens : Opens .blockMappingStart indent tokens indent' outer tokens' outer') :
    Reaches (between true (at_.skip gap.length) tokens indent' outer)
        (behindLead .mark (at_.skip (gap ++ '?' :: ' ' :: (key ++ (lineStart indent ++ [':']))).length)
          (.value :: .scalar (Points.ofText s) (isPlainText s) :: .key :: tokens') indent outer')
      ∧ ReadsBehind .mark indent
          (at_.skip (gap ++ '?' :: ' ' :: (key ++ (lineStart indent ++ [':']))).length) := by
  -- the places of the mark, of the key and of the colon
  let q : Cursor := at_.skip gap.length
  have hq : q.ahead = '?' :: ' ' :: (key ++ (lineStart indent ++ ':' :: rest)) :=
    Cursor.ahead_skip_length hat
  have hqcolumn : q.column = indent := hcolumn
  have hnext : q.next.ahead = [' '] ++ (key ++ (lineStart indent ++ ':' :: rest)) :=
    Cursor.next_ahead hq
  have hkeyAhead : q.next.next.ahead = key ++ (lineStart indent ++ ':' :: rest) :=
    Cursor.next_ahead hnext
  have hkeyColumn : q.next.next.column = indent + 2 := by
    rw [Cursor.column_next hnext (by decide), Cursor.column_next hq (by decide), hqcolumn]
  have hline := Cursor.skip_lineStart (Cursor.ahead_skip_length hkeyAhead)
  rw [← Cursor.skip_add] at hline
  let r : Cursor := q.next.next.skip (key.length + (indent + 1))
  have hr : r.ahead = ':' :: rest := congrArg Cursor.ahead hline
  have hrcolumn : r.column = indent := congrArg Cursor.column hline
  have hplace : at_.skip (gap ++ '?' :: ' ' :: (key ++ (lineStart indent ++ [':']))).length = r.next := by
    have hlength : (gap ++ '?' :: ' ' :: (key ++ (lineStart indent ++ [':']))).length
        = gap.length + (2 + ((key.length + (indent + 1)) + 1)) := by
      simp
      omega
    rw [hlength, Cursor.skip_add, Cursor.skip_add, Cursor.skip_add]
    rfl
  have hle := hopens.le
  have hfirst : Reaches (between true q tokens indent' outer)
      (between true q.next (.key :: tokens') indent outer') :=
    reaches_explicitKey hq rfl hqcolumn hopens
  have hsecond : Reaches (between true q.next (.key :: tokens') indent outer')
      (between true q.next.next (.key :: tokens') indent outer') :=
    between_reaches_of_tokenGap .blank (startsToken_of_scalarForm hkey _) hnext
  have hthird : Reaches (between true q.next.next (.key :: tokens') indent outer')
      (between true r (.scalar (Points.ofText s) (isPlainText s) :: .key :: tokens') indent outer') :=
    reaches_scalar hkey (by omega) (by omega) (by omega) (by omega) hkeyAhead (Int.le_refl _)
      (startsLine_mark (by decide) hrest)
  have hlast : Reaches
      (between true r (.scalar (Points.ofText s) (isPlainText s) :: .key :: tokens') indent outer')
      (between true r.next (.value :: .scalar (Points.ofText s) (isPlainText s) :: .key :: tokens')
        indent outer') := reaches_explicitValue hr hrest hrcolumn
  have hcolon : r.next.column = indent + 1 := by
    rw [Cursor.column_next hr (by decide), hrcolumn]
  rw [hplace]
  refine ⟨((hfirst.trans hsecond).trans hthird).trans hlast, ?_, fun _ => hcolon⟩
  exact hcolon.symm ▸ Nat.lt_succ_self _

/-- **A name and its colon are read as a key.** -/
theorem reaches_name {gap head rest : Text} {indent' : Int} (h : NameForm gap indent s head lead)
    (hat : at_.ahead = head ++ rest) (hrest : endsToken rest.head? = true)
    (hcolumn : (at_.skip gap.length).column = indent)
    (hopens : Opens .blockMappingStart indent tokens indent' outer tokens' outer') :
    Reaches (between true (at_.skip gap.length) tokens indent' outer)
        (behindLead lead (at_.skip head.length)
          (.value :: nameToken (Points.ofText s) :: .key :: tokens') indent outer')
      ∧ ReadsBehind lead indent (at_.skip head.length) := by
  rw [nameToken_ofText]
  cases lead with
  | key =>
      obtain ⟨key, rfl, hkey⟩ := h
      exact reaches_ownKey hkey (by simpa using hat) hrest hcolumn hopens
  | mark =>
      obtain ⟨key, rfl, hkey⟩ := h
      exact reaches_markedKey hkey (by simpa using hat) hrest hcolumn hopens

/-! ## Nodes -/

theorem skip_node (hat : at_.ahead = out ++ (lineStart n ++ tail)) :
    (at_.skip (out.length + (n + 1))).ahead = tail
      ∧ (at_.skip (out.length + (n + 1))).column = n := by
  have hline := Cursor.skip_lineStart (Cursor.ahead_skip_length hat)
  rw [← Cursor.skip_add] at hline
  exact ⟨congrArg Cursor.ahead hline, congrArg Cursor.column hline⟩

/-- A block is closed behind its last entry. -/
theorem reaches_closed {inner : Nat} {indent : Int} (htail : StartsLine tail)
    (hend : at_.ahead = tail ∧ at_.column = n) (hn : n < inner) :
    Reaches (between true at_ tokens inner (indent :: outer))
      (between true at_ (.blockEnd :: tokens) indent outer) :=
  reaches_blockEnd htail.head hend.1 (by rw [hend.2]; omega)

/-- A blank behind a lead. -/
theorem behindLead_reaches_next {indent : Int} (hat : at_.ahead = [' '] ++ tail)
    (htail : StartsToken tail) :
    Reaches (behindLead lead at_ tokens indent outer) (behindLead lead at_.next tokens indent outer) := by
  have hreach : Reaches (between (lead = .mark) at_ tokens indent outer)
      (between (decide (lead = .mark) || false) (at_.skip 1) tokens indent outer) :=
    between_reaches_of_tokenGap .blank htail hat
  rw [Bool.or_false] at hreach
  exact hreach

/-- A scalar behind a lead. -/
theorem reaches_scalarNode {doc : Json} (h : ScalarNode indent doc out)
    (hat : at_.ahead = out ++ (lineStart n ++ tail)) (hn : n ≤ indent) (htail : StartsLine tail)
    (hlead : ReadsBehind lead indent at_) :
    Reaches (behindLead lead at_ tokens indent outer)
      (between true (at_.skip (out.length + (n + 1))) ((scalarTokens doc).reverse ++ tokens) indent
        outer) := by
  obtain ⟨s, plain, body, hdoc, hbody, rfl⟩ := h
  have hblank : at_.ahead = [' '] ++ (body ++ (lineStart n ++ tail)) := hat
  have hcolumn := Cursor.column_next hblank (by decide)
  have hfurther := hlead.further
  have hplace : at_.skip ((' ' :: body).length + (n + 1)) = at_.next.skip (body.length + (n + 1)) := by
    rw [List.length_cons, Nat.add_right_comm, Cursor.skip_succ]
  rw [hplace, scalarTokens, hdoc]
  refine (behindLead_reaches_next hblank (startsToken_of_scalarForm hbody _)).trans ?_
  exact reaches_scalar hbody (by omega) (by omega) (by omega) (by omega) (Cursor.next_ahead hblank)
    (by omega) htail

/-- An empty collection behind a lead. -/
theorem reaches_emptyNode {c d : Char} {start stop : Token} (h : Brackets c d start stop)
    (hat : at_.ahead = ' ' :: c :: d :: (lineStart n ++ tail)) (htail : StartsLine tail)
    (hlead : ReadsBehind lead indent at_) :
    Reaches (behindLead lead at_ tokens indent outer)
      (between true (at_.skip (3 + (n + 1))) (stop :: start :: tokens) indent outer) := by
  have hblank : at_.ahead = [' '] ++ (c :: d :: (lineStart n ++ tail)) := hat
  have hc : c ≠ ' ' ∧ c ≠ '#' ∧ TakesColumn c := by cases h <;> decide
  have hcolumn := Cursor.column_next hblank (by decide)
  have hfurther := hlead.further
  have hplace : at_.skip (3 + (n + 1)) = at_.next.skip (2 + (n + 1)) := by
    rw [show 3 + (n + 1) = 2 + (n + 1) + 1 by omega, Cursor.skip_succ]
  rw [hplace]
  refine (behindLead_reaches_next hblank (startsToken_cons hc)).trans ?_
  exact reaches_brackets h (by omega) (by omega) (Cursor.next_ahead hblank) htail

/-- The first entry of a collection behind a lead. -/
theorem reaches_entry {m : Nat} {u rest : Text} (hu : StartsLine (u ++ rest))
    (hat : at_.ahead = lead.gap m ++ u ++ rest) (indent : Int) :
    Reaches (behindLead lead at_ tokens indent outer)
      (between true (at_.skip (lead.gap m).length) tokens indent outer) := by
  rw [List.append_assoc] at hat
  have hreach : Reaches (between (lead = .mark) at_ tokens indent outer)
      (between (decide (lead = .mark) || decide (lead = .key)) (at_.skip (lead.gap m).length) tokens
        indent outer) := between_reaches_of_tokenGap (tokenGap_of_lead lead m) hu.head hat
  cases lead <;> exact hreach

mutual

/-- **A node is read as its tokens.** -/
theorem reaches_node : ∀ (doc : Json) {lead : Lead} {indent n : Nat} {out tail : Text} {at_ : Cursor}
    {tokens : List Token} {outer : List Int}, NodeForm lead indent doc out →
    at_.ahead = out ++ (lineStart n ++ tail) → n ≤ indent → StartsLine tail →
    ReadsBehind lead indent at_ →
    Reaches (behindLead lead at_ tokens indent outer)
      (between true (at_.skip (out.length + (n + 1))) ((nodeTokens lead doc).reverse ++ tokens) indent
        outer)
  | .null, _, _, _, _, _, _, _, _, h, hat, hn, htail, hlead => reaches_scalarNode h hat hn htail hlead
  | .bool _, _, _, _, _, _, _, _, _, h, hat, hn, htail, hlead => reaches_scalarNode h hat hn htail hlead
  | .int _, _, _, _, _, _, _, _, _, h, hat, hn, htail, hlead => reaches_scalarNode h hat hn htail hlead
  | .float _, _, _, _, _, _, _, _, _, h, hat, hn, htail, hlead => reaches_scalarNode h hat hn htail hlead
  | .str _, _, _, _, _, _, _, _, _, h, hat, hn, htail, hlead => reaches_scalarNode h hat hn htail hlead
  | .list [], lead, indent, n, _, tail, at_, tokens, outer, h, hat, hn, htail, hlead => by
      obtain rfl : _ = [' ', '[', ']'] := h
      exact reaches_emptyNode .list hat htail hlead
  | .object [], lead, indent, n, _, tail, at_, tokens, outer, h, hat, hn, htail, hlead => by
      obtain rfl : _ = [' ', '\x7b', '\x7d'] := h
      exact reaches_emptyNode .object hat htail hlead
  | .list (item :: items), lead, indent, n, out, tail, at_, tokens, outer, h, hat, hn, htail, hlead => by
      obtain ⟨u, rfl, hu⟩ := startsLine_of_itemsForm h
      have hcolumn : (at_.skip (lead.gap (lead.listIndent indent)).length).column
          = lead.listIndent indent := by
        refine column_skip_gap hlead ?_ (by rw [hat, List.append_assoc])
        rintro rfl
        rfl
      have hfirst : Reaches (behindLead lead at_ tokens indent outer) _ :=
        reaches_entry (hu _) hat indent
      have hend := skip_node hat
      cases lead with
      | key =>
          exact hfirst.trans (reaches_items (item :: items) h (List.cons_ne_nil _ _) hat hn htail hcolumn
            (.inside rfl))
      | mark =>
          have hdeeper : indent + 2 = Lead.mark.listIndent indent := rfl
          have hopens : Opens .blockSequenceStart (Lead.mark.listIndent indent) tokens indent outer
              (.blockSequenceStart :: tokens) (indent :: outer) := .opening (by omega)
          have hitems := reaches_items (item :: items) h (List.cons_ne_nil _ _) hat (by omega) htail
            hcolumn hopens
          have hreach := (hfirst.trans hitems).trans (reaches_closed htail hend (by omega))
          simpa [nodeTokens] using hreach
  | .object (field :: fields), lead, indent, n, out, tail, at_, tokens, outer, h, hat, hn, htail, hlead => by
      obtain ⟨u, rfl, hu⟩ := startsLine_of_fieldsForm h
      have hcolumn : (at_.skip (lead.gap (indent + 2)).length).column = indent + 2 :=
        column_skip_gap hlead (fun _ => rfl) (by rw [hat, List.append_assoc])
      have hend := skip_node hat
      have hopens : Opens .blockMappingStart (indent + 2) tokens indent outer
          (.blockMappingStart :: tokens) (indent :: outer) := .opening (by omega)
      have hfields := reaches_fields (field :: fields) h (List.cons_ne_nil _ _) hat (by omega) htail
        hcolumn hopens
      have hreach := ((reaches_entry (hu _) hat indent).trans hfields).trans
        (reaches_closed htail hend (by omega))
      simpa [nodeTokens] using hreach

/-- The items of a list are read as their tokens. -/
theorem reaches_items : ∀ (items : List Json) {gap : Text} {indent n : Nat} {out tail : Text}
    {at_ : Cursor} {tokens tokens' : List Token} {indent' : Int} {outer outer' : List Int},
    ItemsForm gap indent items out → items ≠ [] → at_.ahead = out ++ (lineStart n ++ tail) →
    n ≤ indent → StartsLine tail → (at_.skip gap.length).column = indent →
    Opens .blockSequenceStart indent tokens indent' outer tokens' outer' →
    Reaches (between true (at_.skip gap.length) tokens indent' outer)
      (between true (at_.skip (out.length + (n + 1))) ((itemTokens items).reverse ++ tokens') indent
        outer')
  | [], _, _, _, _, _, _, _, _, _, _, _, _, hne, _, _, _, _, _ => absurd rfl hne
  | item :: items, gap, indent, n, out, tail, at_, tokens, tokens', indent', outer, outer', h, hne, hat,
      hn, htail, hcolumn, hopens => by
      obtain ⟨front, rest, rfl, hfront, hrest⟩ := h
      let q : Cursor := at_.skip gap.length
      have hq : q.ahead = '-' :: (front ++ (rest ++ (lineStart n ++ tail))) :=
        Cursor.ahead_skip_length (by simpa using hat)
      have hqcolumn : q.column = indent := hcolumn
      have hentry : Reaches (between true q tokens indent' outer)
          (between true q.next (.blockEntry :: tokens') indent outer') :=
        reaches_blockEntry hq (endsToken_of_nodeForm _ hfront) hqcolumn hopens
      have hnext : q.next.ahead = front ++ (rest ++ (lineStart n ++ tail)) := Cursor.next_ahead hq
      have hlead : ReadsBehind .mark indent q.next := by
        have hcolumn' : q.next.column = indent + 1 := by
          rw [Cursor.column_next hq (by decide), hqcolumn]
        exact ⟨hcolumn'.symm ▸ Nat.lt_succ_self _, fun _ => hcolumn'⟩
      cases items with
      | nil =>
          obtain rfl : rest = [] := hrest
          have hnode : Reaches (between true q.next (.blockEntry :: tokens') indent outer') _ :=
            reaches_node item hfront hnext hn htail hlead
          have hplace : at_.skip ((gap ++ '-' :: (front ++ [])).length + (n + 1))
              = q.next.skip (front.length + (n + 1)) := by
            rw [← Cursor.skip_succ, ← Cursor.skip_add]
            congr 1
            simp
            omega
          rw [hplace]
          simpa [itemTokens] using hentry.trans hnode
      | cons next items =>
          obtain ⟨u, rfl, hu⟩ := startsLine_of_itemsForm hrest
          have hnode : Reaches (between true q.next (.blockEntry :: tokens') indent outer') _ :=
            reaches_node item hfront (by rw [hnext, List.append_assoc]) (Nat.le_refl _)
              (hu (lineStart n ++ tail)) hlead
          rw [← length_lineStart indent, Cursor.skip_add] at hnode
          have hrestAhead : (q.next.skip front.length).ahead
              = lineStart indent ++ u ++ (lineStart n ++ tail) := Cursor.ahead_skip_length hnext
          have hrestColumn : ((q.next.skip front.length).skip (lineStart indent).length).column = indent := by
            rw [List.append_assoc] at hrestAhead
            rw [length_lineStart, Cursor.skip_lineStart hrestAhead]
          have hplace : at_.skip ((gap ++ '-' :: (front ++ (lineStart indent ++ u))).length + (n + 1))
              = (q.next.skip front.length).skip ((lineStart indent ++ u).length + (n + 1)) := by
            rw [← Cursor.skip_add, ← Cursor.skip_succ, ← Cursor.skip_add]
            congr 1
            simp
            omega
          rw [hplace]
          have hreach := (hentry.trans hnode).trans
            (reaches_items (next :: items) hrest (List.cons_ne_nil _ _) hrestAhead hn htail hrestColumn
              (.inside rfl))
          simpa [itemTokens] using hreach

/-- The fields of an object are read as their tokens. -/
theorem reaches_fields : ∀ (fields : List (Points × Json)) {gap : Text} {indent n : Nat} {out tail : Text}
    {at_ : Cursor} {tokens tokens' : List Token} {indent' : Int} {outer outer' : List Int},
    FieldsForm gap indent fields out → fields ≠ [] → at_.ahead = out ++ (lineStart n ++ tail) →
    n ≤ indent → StartsLine tail → (at_.skip gap.length).column = indent →
    Opens .blockMappingStart indent tokens indent' outer tokens' outer' →
    Reaches (between true (at_.skip gap.length) tokens indent' outer)
      (between true (at_.skip (out.length + (n + 1))) ((fieldTokens fields).reverse ++ tokens') indent
        outer')
  | [], _, _, _, _, _, _, _, _, _, _, _, _, hne, _, _, _, _, _ => absurd rfl hne
  | (name, value) :: fields, gap, indent, n, out, tail, at_, tokens, tokens', indent', outer, outer', h,
      hne, hat, hn, htail, hcolumn, hopens => by
      obtain ⟨s, head, front, rest, rfl, rfl, hhead, hfront, hrest⟩ := h
      have hat' : at_.ahead = head ++ (front ++ (rest ++ (lineStart n ++ tail))) := by simpa using hat
      obtain ⟨hname, hlead⟩ := reaches_name hhead hat' (endsToken_of_nodeForm _ hfront) hcolumn hopens
      have hnext := Cursor.ahead_skip_length hat'
      cases fields with
      | nil =>
          obtain rfl : rest = [] := hrest
          have hplace : at_.skip ((head ++ (front ++ [])).length + (n + 1))
              = (at_.skip head.length).skip (front.length + (n + 1)) := by
            rw [← Cursor.skip_add]
            simp [Nat.add_assoc]
          have hreach := hname.trans (reaches_node value hfront hnext hn htail hlead)
          rw [hplace]
          simpa [fieldTokens] using hreach
      | cons next fields =>
          obtain ⟨u, rfl, hu⟩ := startsLine_of_fieldsForm hrest
          have hnode := hname.trans (reaches_node value hfront (by rw [hnext, List.append_assoc])
            (Nat.le_refl _) (hu (lineStart n ++ tail)) hlead)
          rw [← length_lineStart indent, Cursor.skip_add] at hnode
          have hrestAhead : ((at_.skip head.length).skip front.length).ahead
              = lineStart indent ++ u ++ (lineStart n ++ tail) := Cursor.ahead_skip_length hnext
          have hrestColumn : (((at_.skip head.length).skip front.length).skip
              (lineStart indent).length).column = indent := by
            rw [List.append_assoc] at hrestAhead
            rw [length_lineStart, Cursor.skip_lineStart hrestAhead]
          have hplace : at_.skip ((head ++ (front ++ (lineStart indent ++ u))).length + (n + 1))
              = ((at_.skip head.length).skip front.length).skip ((lineStart indent ++ u).length + (n + 1)) := by
            rw [← Cursor.skip_add, ← Cursor.skip_add]
            simp [Nat.add_assoc]
          rw [hplace]
          have hreach := hnode.trans
            (reaches_fields (next :: fields) hrest (List.cons_ne_nil _ _) hrestAhead hn htail hrestColumn
              (.inside rfl))
          simpa [fieldTokens] using hreach

end

/-! ## Texts -/

/-- At the end of a text its blocks are closed. -/
theorem toEnd_between (k : Nat) (hat : at_.ahead = []) :
    toEnd (k + 2) (between true at_ tokens 0 [-1]) = ((.streamEnd :: .blockEnd :: tokens).reverse, none) := by
  have hnone : StartsToken [] := fun c hc => by cases hc
  have hpeek : at_.peek = none := by rw [Cursor.peek, hat]; rfl
  have hround : (between true at_ tokens 0 [-1]).round
      = .ok { between true at_ (.streamEnd :: .blockEnd :: tokens) (-1) [] with ended := true } := by
    have hstay : (between true at_ tokens 0 [-1]).unindent at_.column = between true at_ tokens 0 [-1] :=
      unindent_of_le (Int.natCast_nonneg _)
    have hplace : (between true at_ tokens 0 [-1]).place = at_ := rfl
    rw [round_between hnone hat]
    unfold act
    rw [hplace, hstay, hplace, hpeek]
    rfl
  rw [toEnd_succ_of_round rfl hround]
  rfl

end Scan

/-- **The text of a document is read as its tokens.** -/
theorem Token.ofText_of_fieldsForm {out : Text} {fields : List (Points × Json)}
    (h : FieldsForm [] 0 fields out) (hne : fields ≠ []) :
    Token.ofText (out ++ ['\n'])
      = (.blockMappingStart :: (fieldTokens fields ++ [.blockEnd, .streamEnd]), none) := by
  have hprintable : (out ++ ['\n']).all isPrintable = true := by
    refine List.all_eq_true.2 (List.forall_mem_append.2 ⟨fun c hc => ?_, by decide⟩)
    have hgap : ∀ c ∈ ([] : Text), isWritten c = true := fun c hc => absurd hc List.not_mem_nil
    exact (Bool.and_eq_true_iff.1 (isWritten_of_fieldsForm fields hgap h c hc)).1
  let start : Cursor := ⟨out ++ ['\n'], 0, 0, 0⟩
  have hstart : start.ahead = out ++ (lineStart 0 ++ []) := rfl
  have hnone : StartsLine [] := ⟨fun c hc => (Option.some_ne_none c hc.symm).elim, by decide, by decide⟩
  have hopens : Scan.Opens .blockMappingStart 0 [] (-1) [] [.blockMappingStart] [-1] :=
    .opening (by decide)
  obtain ⟨k, hk, hread⟩ := Scan.reaches_fields fields h hne hstart (Nat.le_refl 0) hnone rfl hopens
  have hlength : k ≤ (out ++ ['\n']).length := (Nat.le_add_right k _).trans hk
  obtain ⟨j, hj⟩ := Nat.exists_eq_add_of_le hlength
  have hall := hread _ _ (Scan.toEnd_between j (Scan.skip_node hstart).1)
  have hfuel : j + 2 + k = (out ++ ['\n']).length + 2 := by omega
  rw [hfuel] at hall
  rw [Token.ofText, if_pos hprintable]
  refine Eq.trans ?_ (hall.trans ?_)
  · rfl
  · simp

end ApiScan.Yaml
