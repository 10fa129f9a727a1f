import ApiScan.Config.Questions
import ApiScan.Proofs.Config.Store

set_option autoImplicit false

/-! # What is asked about a project

What a dialogue makes of the lines that are typed is settled by the list of its questions. Each
question passes over the lines that it rejects, takes the first other one as its answer and leaves
the lines behind that one to the next question. The list does not depend on the answers, so the
dialogue ends early exactly if the lines run out before the questions do, and a rejected line leaves
no trace in front of any of them.

A question is asked together with its default answer. If that answer holds half of a surrogate pair,
the terminal refuses the question and nothing behind it is asked, whatever was answered before. A
text that is replied is therefore made of whole characters: it was shown as the default answer or it
has been typed. -/

namespace ApiScan

/-- What a question takes as its answer. -/
inductive Question where
  /-- Any line. -/
  | text
  /-- One of some names. -/
  | choice (names : List Text)
  | yesNo

/-- Whether a question is asked again after a line. An empty line is the default answer. -/
def Question.rejects : Question → Text → Bool
  | .text, _ => false
  | .choice names, line => !line.isEmpty && !names.contains (Text.strip line)
  | .yesNo, line => !line.isEmpty && !List.contains [['y'], ['Y'], ['n'], ['N']] (Text.strip line)

/-- The lines that answer the questions and the lines behind them, unless the lines run out. -/
def answers? : List Question → List Text → Option (List Text × List Text)
  | [], lines => some ([], lines)
  | question :: more, lines =>
    match lines.dropWhile question.rejects with
    | [] => none
    | line :: rest => (answers? more rest).map (Prod.map (line :: ·) id)

/-! ## Lines that answer questions -/

section Lines

variable {question : Question} {questions more : List Question} {lines answers left rest : List Text}

theorem answers?_append (questions more : List Question) (lines : List Text) :
    answers? (questions ++ more) lines
      = (answers? questions lines).bind fun (answers, rest) =>
          (answers? more rest).map (Prod.map (answers ++ ·) id) := by
  induction questions generalizing lines with
  | nil => exact (congrFun Option.map_id (answers? more lines)).symm
  | cons question questions ih =>
      simp only [List.cons_append, answers?]
      cases lines.dropWhile question.rejects with
      | nil => rfl
      | cons line rest =>
          simp only [ih, Option.map_bind, Option.bind_map]
          congr 1
          funext taken
          exact Option.map_map ..

/-- The first question is answered by the first line that it does not reject, the others by the lines
    behind that one. -/
theorem answers?_cons_eq_some_iff :
    answers? (question :: more) lines = some (answers, rest) ↔
      ∃ line tail behind, lines.dropWhile question.rejects = line :: tail
        ∧ answers? more tail = some (behind, rest) ∧ answers = line :: behind := by
  rw [answers?]
  constructor
  · intro h
    split at h
    · exact nomatch h
    · next line tail hlines =>
        obtain ⟨⟨behind, rest'⟩, htail, he⟩ := Option.map_eq_some_iff.1 h
        obtain ⟨rfl, rfl⟩ := Prod.mk.inj he
        exact ⟨line, tail, behind, hlines, htail, rfl⟩
  · rintro ⟨line, tail, behind, hlines, htail, rfl⟩
    simp only [hlines, htail]
    rfl

/-- Each question has one answer. -/
theorem length_of_answers? (h : answers? questions lines = some (answers, rest)) :
    answers.length = questions.length := by
  induction questions generalizing lines answers with
  | nil =>
      obtain ⟨rfl, -⟩ := Prod.mk.inj (Option.some.inj h)
      rfl
  | cons question questions ih =>
      obtain ⟨line, tail, behind, -, htail, rfl⟩ := answers?_cons_eq_some_iff.1 h
      exact congrArg (· + 1) (ih htail)

/-- Lines that are typed further on do not change the answers. -/
theorem answers?_append_lines (h : answers? questions lines = some (answers, left)) (rest : List Text) :
    answers? questions (lines ++ rest) = some (answers, left ++ rest) := by
  induction questions generalizing lines answers with
  | nil =>
      obtain ⟨rfl, rfl⟩ := Prod.mk.inj (Option.some.inj h)
      rfl
  | cons question questions ih =>
      obtain ⟨line, tail, behind, hlines, htail, rfl⟩ := answers?_cons_eq_some_iff.1 h
      refine answers?_cons_eq_some_iff.2 ⟨line, tail ++ rest, behind, ?_, ih htail, rfl⟩
      rw [List.dropWhile_append, hlines]
      rfl

/-- **Lines that a question rejects are passed over.** -/
theorem answers?_append_rejected {rejected : List Text}
    (h : ∀ line ∈ rejected, question.rejects line = true) (more : List Question) (rest : List Text) :
    answers? (question :: more) (rejected ++ rest) = answers? (question :: more) rest := by
  simp only [answers?, List.dropWhile_append_of_pos h]

end Lines

/-! ## What a dialogue makes of the lines -/

namespace Dialogue

variable {α β : Type} {dialogue : Dialogue α} {next : α → Dialogue β} {question : Question}
  {questions more : List Question} {good : α → Prop}

/-- A dialogue that goes on does so with the lines that are left. -/
theorem snd_bind (dialogue : Dialogue α) (next : α → Dialogue β) (lines : List Text) :
    ((dialogue >>= next) lines).2 = (dialogue lines).2.bind fun (a, rest) => (next a rest).2 := by
  simp only [bind]
  rcases dialogue lines with ⟨shown, _ | ⟨a, rest⟩⟩ <;> rfl

/-- Whatever lines are typed, an answer of the dialogue is good. -/
def Answers (dialogue : Dialogue α) (good : α → Prop) : Prop :=
  ∀ lines a rest, (dialogue lines).2 = some (a, rest) → good a

theorem answers_pure {a : α} (h : good a) : (pure a : Dialogue α).Answers good := by
  intro lines b rest hb
  obtain ⟨rfl, -⟩ := Prod.mk.inj (Option.some.inj hb)
  exact h

theorem answers_bind {good' : β → Prop} (h : dialogue.Answers good)
    (hnext : ∀ a, good a → (next a).Answers good') : (dialogue >>= next).Answers good' := by
  intro lines b rest hb
  rw [snd_bind] at hb
  obtain ⟨⟨a, after⟩, ha, hb⟩ := Option.bind_eq_some_iff.1 hb
  exact hnext a (h lines a after ha) after b rest hb

/-- However often a question is asked, the answer is the default one or has been read. -/
theorem answers_ask (question retry : Text) {unset : α} {read : Text → Option α} (h : good unset)
    (hread : ∀ line a, read line = some a → good a) :
    (ask question retry unset read).Answers good := by
  intro lines
  induction lines with
  | nil => exact fun a rest hask => nomatch hask
  | cons line lines ih =>
      intro a rest hask
      cases line with
      | nil =>
          obtain ⟨rfl, -⟩ := Prod.mk.inj (Option.some.inj hask)
          exact h
      | cons c line =>
          unfold ask at hask
          split at hask
          · next answer hanswer =>
              obtain ⟨rfl, -⟩ := Prod.mk.inj (Option.some.inj hask)
              exact hread _ _ hanswer
          · exact ih a rest hask

theorem answers_any (dialogue : Dialogue α) : dialogue.Answers fun _ => True :=
  fun _ _ _ _ => trivial

/-- What is chosen is one of the choices if the default one is. -/
theorem answers_askChoice (shown : Text) {choices : List (Text × α)} {unset : Text × α}
    (h : unset.2 ∈ choices.map Prod.snd) :
    (askChoice shown choices unset).Answers (· ∈ choices.map Prod.snd) :=
  answers_ask _ _ h fun _ _ hread => List.mem_map_of_mem (Assoc.mem_of_get?_eq_some hread)

/-- A dialogue asks a question: what it makes of the lines, it makes of the answer. -/
def Asks (dialogue : Dialogue α) (question : Question) : Prop :=
  ∃ result : List Text → α, ∀ lines,
    (dialogue lines).2 = (answers? [question] lines).map (Prod.map result id)

/-- Asking until an answer is read takes the first line that is not rejected. -/
theorem asks_ask (shown retry : Text) (unset : α) {read : Text → Option α}
    (h : ∀ line, question.rejects line = (!line.isEmpty && (read line).isNone)) :
    (ask shown retry unset read).Asks question := by
  refine ⟨fun answers => ((answers.find? fun line => !line.isEmpty).bind read).getD unset,
    fun lines => ?_⟩
  induction lines with
  | nil => rfl
  | cons line lines ih =>
      have hrejects := h line
      cases line with
      | nil =>
          simp only [answers?, List.dropWhile_cons, hrejects, ask]
          rfl
      | cons c line =>
          cases hread : read (c :: line) with
          | some answer =>
              simp [answers?, hrejects, ask, hread]
          | none =>
              simp only [answers?, List.dropWhile_cons, hrejects, ask, hread] at ih ⊢
              exact ih

theorem asks_askChoice (shown : Text) (choices : List (Text × α)) (unset : Text × α) :
    (askChoice shown choices unset).Asks (.choice (choices.map Prod.fst)) := by
  refine asks_ask _ _ _ fun line => ?_
  rw [Question.rejects, Bool.eq_iff_iff]
  simp only [Bool.and_eq_true, List.contains_eq_mem, Bool.not_eq_true', decide_eq_false_iff_not,
    Option.isNone_iff_eq_none, Assoc.get?_eq_none_iff]
  rfl

theorem asks_askYesNo (shown : Text) (unset : Bool) : (askYesNo shown unset).Asks .yesNo := by
  refine asks_ask _ _ _ fun line => ?_
  rw [Question.rejects]
  congr 1
  split
  · next h => simp [h]
  · next h => simp [h]
  · next h => simp [h]
  · next h => simp [h]
  · next hy hY hn hN => simpa using ⟨hy, hY, hn, hN⟩

end Dialogue

/-! ## What an inquiry makes of the lines -/

/-- A question and the default answer that is shown with it. -/
structure Offer where
  question : Question
  unset : Points

/-- Whether the terminal shows a question with its default answer. -/
def Offer.isShown (offer : Offer) : Bool := offer.unset.toText?.isSome

/-- The questions that are asked: those in front of the first one that the terminal refuses. -/
def asked (offers : List Offer) : List Question :=
  (offers.takeWhile Offer.isShown).map Offer.question

section Offers

variable {offers : List Offer}

theorem asked_of_shown (h : offers.all Offer.isShown = true) :
    asked offers = offers.map Offer.question := by
  rw [asked, List.takeWhile_eq_self_iff.2 (List.all_eq_true.1 h)]

theorem asked_append_of_shown (h : offers.all Offer.isShown = true) (more : List Offer) :
    asked (offers ++ more) = asked offers ++ asked more := by
  rw [asked_of_shown h, asked, List.takeWhile_append_of_pos (List.all_eq_true.1 h),
    List.map_append, asked]

/-- Nothing is asked behind a question that is refused. -/
theorem asked_append_of_refused (h : offers.all Offer.isShown = false) (more : List Offer) :
    asked (offers ++ more) = asked offers := by
  rw [asked, List.takeWhile_append, if_neg, asked]
  intro hlength
  have hall := List.takeWhile_eq_self_iff.1
    ((List.takeWhile_prefix Offer.isShown).eq_of_length hlength)
  exact Bool.false_ne_true (h.symm.trans (List.all_eq_true.2 hall))

end Offers

namespace Inquiry

variable {α β : Type} {inquiry : Inquiry α} {next : α → Inquiry β} {dialogue : Dialogue α}
  {offers more : List Offer} {question : Question} {unset : Points} {good : α → Prop}

/-- An inquiry goes on with the lines that are left, unless something was refused. -/
theorem snd_bind (inquiry : Inquiry α) (next : α → Inquiry β) (lines : List Text) :
    ((inquiry >>= next) lines).2 = (inquiry lines).2.bind fun (result, rest) =>
      match result with
      | .ok a => (next a rest).2
      | .error text => some (.error text, rest) := by
  refine (Dialogue.snd_bind inquiry (ExceptT.bindCont next) lines).trans ?_
  congr 1
  funext ⟨result, rest⟩
  cases result <;> rfl

/-- What an inquiry gives is changed by a function on its result, and by nothing else. -/
theorem snd_bind_pure (inquiry : Inquiry α) (f : α → β) (lines : List Text) :
    ((inquiry >>= fun a => pure (f a)) lines).2
      = (inquiry lines).2.map (Prod.map (Except.map f) id) := by
  rw [snd_bind]
  rcases (inquiry lines).2 with _ | ⟨_ | _, rest⟩ <;> rfl

/-- What a dialogue gives, an inquiry gives that is made of it. -/
theorem snd_ofDialogue (dialogue : Dialogue α) (lines : List Text) :
    (ofDialogue dialogue lines).2 = (dialogue lines).2.map (Prod.map Except.ok id) := by
  refine (Dialogue.snd_bind dialogue (pure ∘ Except.ok) lines).trans ?_
  cases (dialogue lines).2 <;> rfl

/-- As a dialogue, an inquiry ends where it ends with a result. -/
theorem snd_answered (inquiry : Inquiry α) (lines : List Text) :
    (inquiry.answered lines).2 = (inquiry lines).2.bind fun (result, rest) =>
      result.toOption.map fun a => (a, rest) := by
  refine (Dialogue.snd_bind inquiry _ lines).trans ?_
  congr 1
  funext ⟨result, rest⟩
  cases result <;> rfl

/-! ### Results -/

theorem answers_answered_iff : inquiry.answered.Answers good ↔
    ∀ lines a rest, (inquiry lines).2 = some (.ok a, rest) → good a := by
  constructor
  · intro h lines a rest hlines
    refine h lines a rest ?_
    rw [snd_answered, hlines]
    rfl
  · intro h lines a rest hlines
    rw [snd_answered] at hlines
    obtain ⟨⟨result, rest'⟩, hinquiry, hresult⟩ := Option.bind_eq_some_iff.1 hlines
    obtain ⟨b, hb, hpair⟩ := Option.map_eq_some_iff.1 hresult
    obtain ⟨rfl, rfl⟩ := Prod.mk.inj hpair
    cases result with
    | error text => exact nomatch hb
    | ok c =>
        obtain rfl := Option.some.inj hb
        exact h lines c _ hinquiry

theorem answers_pure {a : α} (h : good a) : (pure a : Inquiry α).answered.Answers good :=
  answers_answered_iff.2 fun _ _ _ hb => by
    obtain ⟨hok, -⟩ := Prod.mk.inj (Option.some.inj hb)
    obtain rfl := Except.ok.inj hok
    exact h

theorem answers_bind {good' : β → Prop} (h : inquiry.answered.Answers good)
    (hnext : ∀ a, good a → (next a).answered.Answers good') :
    (inquiry >>= next).answered.Answers good' := by
  refine answers_answered_iff.2 fun lines b rest hb => ?_
  rw [snd_bind] at hb
  obtain ⟨⟨result, after⟩, hinquiry, hb⟩ := Option.bind_eq_some_iff.1 hb
  cases result with
  | error text => exact nomatch (Prod.mk.inj (Option.some.inj hb)).1
  | ok a =>
      have hgood := answers_answered_iff.1 h lines a after hinquiry
      exact answers_answered_iff.1 (hnext a hgood) after b rest hb

theorem answers_ofDialogue (h : dialogue.Answers good) :
    (ofDialogue dialogue).answered.Answers good := by
  refine answers_answered_iff.2 fun lines a rest ha => ?_
  rw [snd_ofDialogue] at ha
  obtain ⟨⟨b, rest'⟩, hdialogue, hpair⟩ := Option.map_eq_some_iff.1 ha
  obtain ⟨hok, rfl⟩ := Prod.mk.inj hpair
  obtain rfl := Except.ok.inj hok
  exact h lines b _ hdialogue

/-- **A text that is replied is made of whole characters**: it is the default one, which was shown,
    or it has been typed. -/
theorem answers_askText (question : Text) (unset : Points) :
    (askText question unset).answered.Answers Json.IsWholeText := by
  unfold askText
  split
  · next shown hshown =>
      refine answers_ofDialogue (Dialogue.answers_ask _ _ ?_ fun line text hread => ?_)
      · exact ⟨shown, Points.toText?_eq_some_iff.1 hshown⟩
      · obtain rfl := Option.some.inj hread
        exact Json.isWholeText_ofText _
  · exact answers_answered_iff.2 fun _ _ _ ha => nomatch ha

/-! ### Questions -/

/-- An inquiry makes some offers: what it makes of the lines, it makes of the answers to the
    questions that are asked, and something is refused exactly if one of the offers is. -/
def Asks (inquiry : Inquiry α) (offers : List Offer) : Prop :=
  ∃ result : List Text → Except Points α,
    (∀ answers, (result answers).isOk = offers.all Offer.isShown)
      ∧ ∀ lines, (inquiry lines).2 = (answers? (asked offers) lines).map (Prod.map result id)

theorem asks_pure (a : α) : (pure a : Inquiry α).Asks [] :=
  ⟨fun _ => .ok a, fun _ => rfl, fun _ => rfl⟩

theorem exists_eq_ok {result : Except Points α} (h : result.isOk = true) : ∃ a, result = .ok a := by
  cases result with
  | error text => exact nomatch h
  | ok a => exact ⟨a, rfl⟩

theorem exists_eq_error {result : Except Points α} (h : result.isOk = false) :
    ∃ text, result = .error text := by
  cases result with
  | error text => exact ⟨text, rfl⟩
  | ok a => exact nomatch h

/-- What is asked one after the other adds up, if what is asked later does not depend on the answers
    before. -/
theorem asks_bind (h : inquiry.Asks offers) (hnext : ∀ a, (next a).Asks more) :
    (inquiry >>= next).Asks (offers ++ more) := by
  obtain ⟨result, hok, hresult⟩ := h
  choose result' hok' hresult' using hnext
  refine ⟨fun answers => result (answers.take (asked offers).length) >>= fun a =>
    result' a (answers.drop (asked offers).length), fun answers => ?_, fun lines => ?_⟩
  · dsimp only
    rw [List.all_append, ← hok (answers.take (asked offers).length)]
    cases result (answers.take (asked offers).length) with
    | error text => rfl
    | ok a => exact hok' a _
  · rw [snd_bind, hresult]
    cases hshown : offers.all Offer.isShown with
    | true =>
        rw [asked_append_of_shown hshown, answers?_append]
        cases hanswers : answers? (asked offers) lines with
        | none => rfl
        | some taken =>
            obtain ⟨answers, rest⟩ := taken
            obtain ⟨a, hgiven⟩ := exists_eq_ok ((hok answers).trans hshown)
            simp only [Option.map_some, Option.bind_some, Prod.map, id, Option.map_map, hgiven]
            refine (hresult' a rest).trans ?_
            congr 1
            funext behind
            simp only [Function.comp_apply, Prod.map, id, ← length_of_answers? hanswers,
              List.take_left, List.drop_left, hgiven]
            rfl
    | false =>
        rw [asked_append_of_refused hshown]
        cases hanswers : answers? (asked offers) lines with
        | none => rfl
        | some taken =>
            obtain ⟨answers, rest⟩ := taken
            obtain ⟨text, hgiven⟩ := exists_eq_error ((hok answers).trans hshown)
            simp only [Option.map_some, Option.bind_some, Prod.map, id,
              ← length_of_answers? hanswers, List.take_length, hgiven]
            rfl

/-- A first offer and those that follow. -/
theorem asks_offer_bind {offer : Offer} (h : inquiry.Asks [offer]) (hnext : ∀ a, (next a).Asks more) :
    (inquiry >>= next).Asks (offer :: more) := asks_bind h hnext

theorem asks_ofDialogue (h : dialogue.Asks question) (hshown : Json.IsWholeText unset) :
    (ofDialogue dialogue).Asks [⟨question, unset⟩] := by
  have hisShown : Offer.isShown ⟨question, unset⟩ = true := Json.isSome_toText?_iff.2 hshown
  have hall : [(⟨question, unset⟩ : Offer)].all Offer.isShown = true := by
    rw [List.all_cons, hisShown]
    rfl
  obtain ⟨result, hresult⟩ := h
  refine ⟨fun answers => .ok (result answers), fun _ => hall.symm, fun lines => ?_⟩
  rw [snd_ofDialogue, hresult, asked_of_shown hall, Option.map_map]
  rfl

theorem asks_askText (shown : Text) (unset : Points) :
    (askText shown unset).Asks [⟨.text, unset⟩] := by
  unfold askText
  split
  · next text htext =>
      refine asks_ofDialogue (Dialogue.asks_ask _ _ _ fun line => ?_) ?_
      · simp [Question.rejects]
      · exact ⟨text, Points.toText?_eq_some_iff.1 htext⟩
  · next hnone =>
      have hisShown : Offer.isShown ⟨.text, unset⟩ = false := congrArg Option.isSome hnone
      refine ⟨fun _ => .error (unset.mapShown (Dialogue.withDefault shown)), fun _ => ?_,
        fun lines => ?_⟩
      · rw [List.all_cons, hisShown]
        rfl
      · rw [asked, List.takeWhile_cons, hisShown]
        rfl

/-! ### Default answers -/

/-- As many empty lines as there are offers give `a`, if the terminal shows them all. -/
def Defaults (inquiry : Inquiry α) (offers : List Offer) (a : α) : Prop :=
  (∀ offer ∈ offers, Json.IsWholeText offer.unset) →
    ∀ rest, (inquiry (List.replicate offers.length [] ++ rest)).2 = some (.ok a, rest)

theorem defaults_pure (a : α) : (pure a : Inquiry α).Defaults [] a := fun _ _ => rfl

theorem defaults_bind {a : α} {b : β} (h : inquiry.Defaults offers a)
    (hnext : (next a).Defaults more b) : (inquiry >>= next).Defaults (offers ++ more) b := by
  intro hwhole rest
  obtain ⟨hfirst, hmore⟩ := List.forall_mem_append.1 hwhole
  rw [List.length_append, List.replicate_add, List.append_assoc, snd_bind, h hfirst]
  exact hnext hmore rest

/-- A first offer and those that follow. -/
theorem defaults_offer_bind {offer : Offer} {a : α} {b : β} (h : inquiry.Defaults [offer] a)
    (hnext : (next a).Defaults more b) : (inquiry >>= next).Defaults (offer :: more) b :=
  defaults_bind h hnext

theorem defaults_ask (shown retry : Text) (offer : Offer) (a : α) (read : Text → Option α) :
    (ofDialogue (Dialogue.ask shown retry a read)).Defaults [offer] a := fun _ _ => rfl

theorem defaults_askText (shown : Text) (unset : Points) :
    (askText shown unset).Defaults [⟨.text, unset⟩] unset := by
  intro hwhole rest
  obtain ⟨text, htext⟩ := hwhole _ (List.mem_singleton_self _)
  rw [askText, Points.toText?_eq_some_iff.2 htext]
  rfl

end Inquiry

namespace Config

open Inquiry

variable {known : Known} {base : Config}

/-! ## What is known -/

/-- What is known of a project was read from its files. -/
structure Known.Read (known : Known) : Prop where
  package : Json.SettledFields known.package.fields
  saved : ∀ config ∈ known.saved, config.Joined

theorem Known.Read.settled_packageValue {known : Known} (h : known.Read) (name : String) (unset : Text) :
    Json.Settled (known.packageValue name unset) := by
  unfold packageValue
  split
  · next value hvalue =>
      split
      · exact h.package.settled _ (Assoc.mem_of_get?_eq_some hvalue)
      · exact Json.settled_str unset
  · exact Json.settled_str unset

theorem Known.Read.settledFields_detected {known : Known} (h : known.Read) :
    Json.SettledFields known.detected := by
  have hchosen (s : Text) (first second : Text) :
      Json.Settled (.str (if s.isEmpty then Points.ofText first else Points.ofText second)) := by
    split
    · exact Json.settled_str first
    · exact Json.settled_str second
  have hnodup : ["name", "version", "description", "main", "database", "schema",
      "routes"].Nodup := by decide
  refine Json.settledFields_named hnodup ?_
  simp only [List.forall_mem_cons]
  exact ⟨h.settled_packageValue _ _, h.settled_packageValue _ _, h.settled_packageValue _ _,
    Json.settled_str _, hchosen _ _ _, hchosen _ _ _, Json.settled_str _, List.forall_mem_nil _⟩

theorem Known.Read.joined_of_initial {known : Known} (h : known.Read) {config : Config}
    (hinitial : known.initial = .ok config) : config.Joined := by
  unfold initial at hinitial
  split at hinitial
  · next saved hsaved =>
      split at hinitial
      · exact joined_of_ofFields? h.settledFields_detected hinitial
      · obtain rfl := Except.ok.inj hinitial
        exact h.saved saved hsaved
  · exact joined_of_ofFields? h.settledFields_detected hinitial

/-- **The saved configuration comes first**, if it has a name. -/
theorem Known.initial_of_saved {known : Known} {config : Config} (h : known.saved = some config)
    (hname : config.name ≠ []) : known.initial = .ok config := by
  unfold initial
  rw [h]
  simp [hname]

/-! ## The replies -/

/-- **What is replied to the questions passes as a configuration.** -/
theorem ofFields?_fields (replies : Replies) : ofFields? replies.fields = .ok replies.config := by
  have hauthorization : readField ["authorization"] .none
      (readChoice .none Authorization.ofName?) replies.fields = (replies.authorization, []) :=
    readField_of_get? rfl (readChoice_authorization replies.authorization)
  have hdatabase : readField ["database"] .unknown
      (readChoice .unknown Database.ofName?) replies.fields = (replies.database, []) := by
    refine readField_of_get? ?_ (readChoice_database replies.database)
    unfold Replies.fields
    cases replies.main <;> rfl
  unfold ofFields?
  dsimp only
  rw [hauthorization, hdatabase]
  unfold Replies.fields Replies.config
  cases replies.main <;> rfl

theorem answers_askMain (kind : Option Project.Kind) (base : Config) :
    (askMain kind base).answered.Answers fun main => Json.IsWholeText (main.getD []) := by
  unfold askMain
  split
  · exact answers_pure (Json.isWholeText_ofText [])
  · exact answers_bind (answers_askText _ _) fun main hmain => answers_pure hmain

theorem offeredDatabase_mem (database : Database) :
    offeredDatabase database ∈ databaseChoices.map Prod.snd := by
  cases database <;> decide

/-- **Every text that is replied is made of whole characters**, and the library of models is always
    one of those that are offered. -/
theorem answers_askReplies (kind : Option Project.Kind) (base : Config) :
    (askReplies kind base).answered.Answers fun replies =>
      (∀ text ∈ replies.config.texts, Json.IsWholeText text)
        ∧ replies.database ∈ databaseChoices.map Prod.snd := by
  unfold askReplies
  refine answers_bind (answers_askText _ _) fun name hname => ?_
  refine answers_bind (answers_askText _ _) fun version hversion => ?_
  refine answers_bind (answers_askText _ _) fun description hdescription => ?_
  refine answers_bind (answers_ofDialogue (Dialogue.answers_any _)) fun authorization _ => ?_
  refine answers_bind (answers_askText _ _) fun baseurl hbaseurl => ?_
  refine answers_bind (answers_askMain kind base) fun main hmain => ?_
  refine answers_bind (answers_ofDialogue (Dialogue.answers_askChoice _ (offeredDatabase_mem _)))
    fun database hdatabase => ?_
  refine answers_bind (answers_askText _ _) fun schema hschema => ?_
  refine answers_bind (answers_askText _ _) fun routes hroutes => ?_
  refine answers_bind (answers_askText _ _) fun docs hdocs => ?_
  refine answers_bind (answers_ofDialogue (Dialogue.answers_any _)) fun gitignore _ => ?_
  refine answers_pure ⟨?_, hdatabase⟩
  simp only [texts, List.forall_mem_cons]
  exact ⟨hname, hversion, hdescription, hbaseurl, hmain, hschema, hroutes, hdocs,
    List.forall_mem_nil _⟩

/-- What is answered is a configuration of whole characters. -/
theorem answers_askAll (kind : Option Project.Kind) (base : Config) :
    (askAll kind base).Answers fun config => ∀ text ∈ config.texts, Json.IsWholeText text :=
  Dialogue.answers_bind (answers_askReplies kind base) fun _ hreplies =>
    Dialogue.answers_pure hreplies.1

/-- Checking the replies changes none of them and finds nothing wrong. -/
theorem snd_askChecked (kind : Option Project.Kind) (base : Config) (lines : List Text) :
    (askChecked kind base lines).2 = (askReplies kind base lines).2.map
      (Prod.map (Except.map fun replies => .ok replies.config) id) := by
  unfold askChecked
  rw [snd_bind_pure]
  simp only [ofFields?_fields]

/-- As a dialogue, checking finds nothing wrong. -/
theorem answered_askChecked (kind : Option Project.Kind) (base : Config) :
    (askChecked kind base).answered = (do return .ok (← askAll kind base)) := by
  funext lines
  unfold askChecked askAll answered
  simp only [bind, pure, ExceptT.bind, ExceptT.mk, ExceptT.run, ExceptT.pure]
  rcases askReplies kind base lines with ⟨shown, _ | ⟨text | replies, rest⟩⟩
  · rfl
  · simp [ExceptT.bindCont, pure, Dialogue.breakOff]
  · simp [ExceptT.bindCont, ofFields?_fields]

/-- What is answered passes the check, and it is made of whole characters. -/
theorem answers_askChecked (kind : Option Project.Kind) (base : Config) :
    (askChecked kind base).answered.Answers fun checked =>
      ∃ config, checked = .ok config ∧ ∀ text ∈ config.texts, Json.IsWholeText text := by
  rw [answered_askChecked]
  exact Dialogue.answers_bind (answers_askAll kind base) fun config hconfig =>
    Dialogue.answers_pure ⟨config, rfl, hconfig⟩

/-! ## The questions about a project -/

/-- The offer of the main file, which is not asked for if the files of a project are its routes. -/
def mainOffers (kind : Option Project.Kind) (base : Config) : List Offer :=
  if kind = some .nextjs then [] else [⟨.text, base.main⟩]

/-- The questions about a project, with the default answers of a configuration. -/
def offers (kind : Option Project.Kind) (base : Config) : List Offer :=
  [⟨.text, base.name⟩, ⟨.text, base.version⟩, ⟨.text, base.description⟩,
    ⟨.choice (authorizationChoices.map Prod.fst), base.authorization.name⟩, ⟨.text, base.baseurl⟩]
  ++ (mainOffers kind base
    ++ [⟨.choice (databaseChoices.map Prod.fst), (offeredDatabase base.database).name⟩,
      ⟨.text, base.schema⟩, ⟨.text, base.routes⟩, ⟨.text, base.docs⟩,
      ⟨.yesNo, Dialogue.yesNoLetter base.gitignore⟩])

/-- The default answers to the questions. -/
def defaultReplies (kind : Option Project.Kind) (base : Config) : Replies where
  name := base.name
  version := base.version
  description := base.description
  authorization := base.authorization
  baseurl := base.baseurl
  main := if kind = some .nextjs then none else some base.main
  database := offeredDatabase base.database
  schema := base.schema
  routes := base.routes
  docs := base.docs
  gitignore := base.gitignore

theorem asks_askMain (kind : Option Project.Kind) (base : Config) :
    (askMain kind base).Asks (mainOffers kind base) := by
  unfold askMain mainOffers
  split
  · exact asks_pure none
  · exact asks_offer_bind (asks_askText _ _) fun main => asks_pure (some main)

theorem asks_askReplies (kind : Option Project.Kind) (base : Config) :
    (askReplies kind base).Asks (offers kind base) := by
  have hname (name : Text) : Json.IsWholeText name := Json.isWholeText_ofText name
  unfold askReplies offers
  simp only [List.cons_append, List.nil_append]
  refine asks_offer_bind (asks_askText _ _) fun name => ?_
  refine asks_offer_bind (asks_askText _ _) fun version => ?_
  refine asks_offer_bind (asks_askText _ _) fun description => ?_
  refine asks_offer_bind (asks_ofDialogue (Dialogue.asks_askChoice _ _ _) (hname _))
    fun authorization => ?_
  refine asks_offer_bind (asks_askText _ _) fun baseurl => ?_
  refine asks_bind (asks_askMain kind base) fun main => ?_
  refine asks_offer_bind (asks_ofDialogue (Dialogue.asks_askChoice _ _ _) (hname _))
    fun database => ?_
  refine asks_offer_bind (asks_askText _ _) fun schema => ?_
  refine asks_offer_bind (asks_askText _ _) fun routes => ?_
  refine asks_offer_bind (asks_askText _ _) fun docs => ?_
  refine asks_offer_bind (asks_ofDialogue (Dialogue.asks_askYesNo _ _) (hname _))
    fun gitignore => ?_
  exact asks_pure _

theorem defaults_askMain (kind : Option Project.Kind) (base : Config) :
    (askMain kind base).Defaults (mainOffers kind base) (defaultReplies kind base).main := by
  unfold askMain mainOffers defaultReplies
  split
  · exact defaults_pure none
  · exact defaults_offer_bind (defaults_askText _ _) (defaults_pure _)

theorem defaults_askReplies (kind : Option Project.Kind) (base : Config) :
    (askReplies kind base).Defaults (offers kind base) (defaultReplies kind base) := by
  unfold askReplies offers
  simp only [List.cons_append, List.nil_append]
  refine defaults_offer_bind (defaults_askText _ _) ?_
  refine defaults_offer_bind (defaults_askText _ _) ?_
  refine defaults_offer_bind (defaults_askText _ _) ?_
  refine defaults_offer_bind (defaults_ask _ _ _ _ _) ?_
  refine defaults_offer_bind (defaults_askText _ _) ?_
  refine defaults_bind (defaults_askMain kind base) ?_
  refine defaults_offer_bind (defaults_ask _ _ _ _ _) ?_
  refine defaults_offer_bind (defaults_askText _ _) ?_
  refine defaults_offer_bind (defaults_askText _ _) ?_
  refine defaults_offer_bind (defaults_askText _ _) ?_
  refine defaults_offer_bind (defaults_ask _ _ _ _ _) ?_
  exact defaults_pure _

theorem config_defaultReplies (kind : Option Project.Kind) (base : Config) :
    (defaultReplies kind base).config = { base with
      database := if base.database = .unknown then .mongoose else base.database
      main := if kind = some .nextjs then [] else base.main } := by
  have hdatabase : offeredDatabase base.database
      = if base.database = .unknown then .mongoose else base.database := by
    cases base.database <;> rfl
  have hmain : (defaultReplies kind base).main.getD []
      = if kind = some .nextjs then [] else base.main := by
    unfold defaultReplies
    split <;> rfl
  rw [← hdatabase, ← hmain]
  rfl

/-- The terminal shows each question about a project with its default answer. -/
def AllShown (kind : Option Project.Kind) (base : Config) : Prop :=
  ∀ offer ∈ offers kind base, Json.IsWholeText offer.unset

/-- The questions about a project that are asked. -/
def questions (kind : Option Project.Kind) (base : Config) : List Question :=
  asked (offers kind base)

/-- **Asking about a project ends in a configuration, for want of lines, or at a question that the
    terminal refuses**, never with something wrong in the replies, and the library of models is
    always a known one. Whether something is refused depends on the default answers alone. What a
    question rejects changes nothing in front of its answer, wherever the question stands. Empty
    lines give back the configuration that is started from, except for a library of models that is
    unknown and for a main file that is not asked for. -/
theorem Known.ask_of_initial (hinitial : known.initial = .ok base) :
    ∃ inquiry, known.ask = .ok inquiry
      ∧ (∀ lines,
          (answers? (questions known.kind base) lines = none ∧ (inquiry lines).2 = none)
            ∨ ∃ answers rest, answers? (questions known.kind base) lines = some (answers, rest)
              ∧ ((AllShown known.kind base ∧ ∃ config,
                    (inquiry lines).2 = some (.ok (.ok config), rest)
                      ∧ config.database ∈ [.mongoose, .prisma, .drizzle])
                ∨ (¬ AllShown known.kind base ∧ ∃ text,
                    (inquiry lines).2 = some (.error text, rest))))
      ∧ (∀ before question more front answers rejected rest,
          questions known.kind base = before ++ question :: more →
          answers? before front = some (answers, []) →
          (∀ line ∈ rejected, question.rejects line = true) →
          (inquiry (front ++ (rejected ++ rest))).2 = (inquiry (front ++ rest)).2)
      ∧ (AllShown known.kind base → ∀ rest,
          (inquiry (List.replicate (offers known.kind base).length [] ++ rest)).2
            = some (.ok (.ok { base with
                database := if base.database = .unknown then .mongoose else base.database
                main := if known.kind = some .nextjs then [] else base.main }), rest)) := by
  obtain ⟨result, hok, hresult⟩ := asks_askReplies known.kind base
  have hshown : (offers known.kind base).all Offer.isShown = true ↔ AllShown known.kind base := by
    simp only [List.all_eq_true, Offer.isShown, Json.isSome_toText?_iff, AllShown]
  refine ⟨askChecked known.kind base, congrArg (Except.map _) hinitial, fun lines => ?_, ?_,
    fun hall rest => ?_⟩
  · rw [snd_askChecked, hresult]
    cases hanswers : answers? (questions known.kind base) lines with
    | none => exact .inl ⟨rfl, congrArg (Option.map _) (congrArg (Option.map _) hanswers)⟩
    | some taken =>
        obtain ⟨answers, rest⟩ := taken
        have hasked : (askReplies known.kind base lines).2 = some (result answers, rest) := by
          rw [hresult]
          exact congrArg (Option.map _) hanswers
        refine .inr ⟨answers, rest, rfl, ?_⟩
        rw [← hshown, ← hok answers, ← hresult, hasked]
        cases hreplies : result answers with
        | error text => exact .inr ⟨nofun, text, rfl⟩
        | ok replies =>
            rw [hreplies] at hasked
            have hdatabase := (answers_answered_iff.1 (answers_askReplies known.kind base) _ _ _ hasked).2
            exact .inl ⟨rfl, replies.config, rfl, hdatabase⟩
  · intro before question more front answers rejected rest hquestions hfront hrejected
    have hasked : asked (offers known.kind base) = before ++ question :: more := hquestions
    rw [snd_askChecked, snd_askChecked, hresult, hresult, hasked, answers?_append,
      answers?_append, answers?_append_lines hfront, answers?_append_lines hfront]
    simp only [Option.bind_some, List.nil_append, answers?_append_rejected hrejected]
  · rw [snd_askChecked, defaults_askReplies _ _ hall, ← config_defaultReplies]
    rfl

/-- A project of which a configuration was saved. -/
def savedProject : Known where
  kind := some .express
  saved := some { name := "shop".toList }

/-- An unknown authorization and a blank in front of a known one. -/
theorem ask_savedProject :
    savedProject.initial = .ok { name := "shop".toList }
      ∧ ∃ inquiry, savedProject.ask = .ok inquiry
        ∧ (inquiry ([[], [], []] ++ (["oauth".toList, [' ']]
              ++ ["basic".toList, [], [], [], [], [], [], ['n']]))).2
            = (inquiry ([[], [], []] ++ ["basic".toList, [], [], [], [], [], [], ['n']])).2
        ∧ (inquiry (List.replicate 11 [])).2
            = some (.ok (.ok { name := "shop".toList, database := .mongoose }), []) := by
  have hinitial : savedProject.initial = .ok { name := "shop".toList } := rfl
  have hall : AllShown savedProject.kind { name := "shop".toList } := by
    intro offer hoffer
    refine Json.isSome_toText?_iff.1 ?_
    revert offer
    decide
  obtain ⟨inquiry, hask, -, hrejected, hempty⟩ := Known.ask_of_initial hinitial
  refine ⟨hinitial, inquiry, hask, ?_, hempty hall []⟩
  exact hrejected [.text, .text, .text] (.choice (authorizationChoices.map Prod.fst)) _ _ [[], [], []]
    _ _ rfl rfl (by decide)

/-- A project whose package file gives half of a surrogate pair as its name. -/
def halfNamed : Known where
  kind := some .express
  package := .object (Json.named [("name", .str [.half 0])])

/-- Nothing can be answered about the project: the terminal refuses the first question. -/
theorem ask_halfNamed :
    (∃ base, halfNamed.initial = .ok base)
      ∧ ∃ inquiry, halfNamed.ask = .ok inquiry ∧ ∀ lines, (inquiry lines).2
        = some (.error (Points.ofText "Name of Express API (".toList ++ [.half 0]
            ++ Points.ofText "): ".toList), lines) := by
  refine ⟨⟨_, rfl⟩, _, rfl, fun lines => ?_⟩
  rfl

end Config

end ApiScan
