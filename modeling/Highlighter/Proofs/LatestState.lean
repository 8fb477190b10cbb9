import Highlighter.Proofs.SemanticReading
import Highlighter.Semantic.Workspace
import Mathlib.Data.List.Induction

/-!
# The latest state of a document

A workspace keeps nothing of a document but what the last requests on it left: the language id of
its last opening, and the text of its last opening or change.  So the answer to a request for
tokens can be told by looking back through the history of that one document.  Requests on other
documents, requests for tokens and requests that failed can be taken out of the history, and the
answer is the same.

The answer is a failure if the document is not open, and also if it is open and there is a
surrogate in its text.
-/

namespace Highlighter.Semantic

variable {Uri : Type}

/-- Whether an answer says that its request failed. -/
def Answer.isFailure : Answer → Bool
  | .done | .data _ => false
  | .notOpen | .unencodable _ => true

/-! ## Histories -/

namespace Request

/-- The uri in a request. -/
def uri : Request Uri → Uri
  | .opened uri _ _ | .changed uri _ | .closed uri | .tokens uri => uri

/-- Whether a request is on the document of a uri. -/
def isOn [DecidableEq Uri] (uri : Uri) (request : Request Uri) : Bool :=
  request.uri == uri

/-- Whether a request asks for tokens. -/
def asksForTokens : Request Uri → Bool
  | .tokens _ => true
  | .opened .. | .changed .. | .closed _ => false

/-- Whether a request leaves its document open or not. -/
def presence? : Request Uri → Option Bool
  | .opened .. => some true
  | .closed _ => some false
  | .changed .. | .tokens _ => none

/-- The language id that a request gives its document. -/
def languageId? : Request Uri → Option (Option LooseText)
  | .opened _ languageId _ => some languageId
  | .changed .. | .closed _ | .tokens _ => none

/-- The text that a request gives its document. -/
def text? : Request Uri → Option LooseText
  | .opened _ _ text | .changed _ text => some text
  | .closed _ | .tokens _ => none

/-- What a request makes of its document. -/
def edit (document? : Option Document) : Request Uri → Option Document
  | .opened _ languageId text => some ⟨languageId, text⟩
  | .changed _ text => document?.map ({ · with text })
  | .closed _ => none
  | .tokens _ => document?

end Request

variable [DecidableEq Uri]

/-- What the last request on the document of a uri tells, of those that tell something. -/
def lastTold {α : Type} (tells : Request Uri → Option α) (uri : Uri)
    (history : List (Request Uri)) : Option α :=
  ((history.filter (·.isOn uri)).filterMap tells).getLast?

/-- The last opening or closing of a document was an opening. -/
def IsOpen (uri : Uri) (history : List (Request Uri)) : Prop :=
  lastTold Request.presence? uri history = some true

instance (uri : Uri) (history : List (Request Uri)) : Decidable (IsOpen uri history) :=
  inferInstanceAs (Decidable (_ = _))

theorem lastTold_append {α : Type} (tells : Request Uri → Option α) (uri : Uri)
    (earlier later : List (Request Uri)) :
    lastTold tells uri (earlier ++ later) =
      (lastTold tells uri later).or (lastTold tells uri earlier) := by
  unfold lastTold
  rw [List.filter_append, List.filterMap_append, List.getLast?_append]

theorem lastTold_singleton {α : Type} (tells : Request Uri → Option α) (uri : Uri)
    (request : Request Uri) :
    lastTold tells uri [request] = if request.isOn uri then tells request else none := by
  unfold lastTold
  cases on : request.isOn uri with
  | false => simp [on]
  | true => cases told : tells request <;> simp [on, told]

/-- The requests that make a difference to the document of a uri are kept. -/
def KeepsEdits (uri : Uri) (keep : Request Uri × Answer → Bool) : Prop :=
  ∀ request answer, request.isOn uri = true → request.asksForTokens = false →
    answer.isFailure = false → keep (request, answer) = true

/-! ## What is left of a document -/

/-- A document, or none, is what a history has left of the one of a uri. -/
def LeftBy (uri : Uri) (history : List (Request Uri)) : Option Document → Prop
  | some document =>
      IsOpen uri history ∧
        lastTold Request.languageId? uri history = some document.languageId ∧
        lastTold Request.text? uri history = some document.text
  | none => ¬IsOpen uri history

namespace LeftBy

variable {uri : Uri} {earlier : List (Request Uri)} {document? : Option Document}

/-- A request that tells nothing new of a document leaves it as it was. -/
theorem concat_of_untold (left : LeftBy uri earlier document?) {request : Request Uri}
    (untold : request.isOn uri = true →
      request.presence? = none ∧ request.languageId? = none ∧ request.text? = none) :
    LeftBy uri (earlier ++ [request]) document? := by
  have same {α : Type} {tells : Request Uri → Option α}
      (silent : request.isOn uri = true → tells request = none) :
      lastTold tells uri (earlier ++ [request]) = lastTold tells uri earlier := by
    rw [lastTold_append, lastTold_singleton]
    split
    · rename_i on
      rw [silent on, Option.none_or]
    · rw [Option.none_or]
  unfold LeftBy IsOpen at left ⊢
  rw [same fun on => (untold on).1, same fun on => (untold on).2.1,
    same fun on => (untold on).2.2]
  exact left

/-- What a request on a document makes of it is what it leaves. -/
theorem concat_of_isOn (left : LeftBy uri earlier document?) {request : Request Uri}
    (on : request.isOn uri = true) :
    LeftBy uri (earlier ++ [request]) (request.edit document?) := by
  have told {α : Type} (tells : Request Uri → Option α) :
      lastTold tells uri (earlier ++ [request]) =
        (tells request).or (lastTold tells uri earlier) := by
    rw [lastTold_append, lastTold_singleton, if_pos on]
  cases request with
  | opened own languageId text =>
      simp [LeftBy, IsOpen, told, Request.edit, Request.presence?, Request.languageId?,
        Request.text?]
  | changed own text =>
      cases document? with
      | none => simpa [LeftBy, IsOpen, told, Request.edit, Request.presence?] using left
      | some document =>
          simp only [LeftBy, IsOpen] at left
          simp [LeftBy, IsOpen, told, Request.edit, Request.presence?, Request.languageId?,
            Request.text?, left]
  | closed own => simp [LeftBy, IsOpen, told, Request.edit, Request.presence?]
  | tokens own => exact left.concat_of_untold fun _ => ⟨rfl, rfl, rfl⟩

end LeftBy

/-! ## One request -/

namespace Workspace

variable (workspace : Workspace Uri)

/-- A request for tokens leaves the workspace as it was. -/
theorem serve_tokens (uri : Uri) : (workspace.serve (.tokens uri)).1 = workspace := by
  simp only [serve]
  cases workspace.document? uri <;> rfl

/-- A request that fails leaves the workspace as it was. -/
theorem serve_of_isFailure {request : Request Uri}
    (failed : (workspace.serve request).2.isFailure = true) :
    (workspace.serve request).1 = workspace := by
  cases request with
  | opened own languageId text => contradiction
  | changed own text =>
      simp only [serve] at failed ⊢
      cases held : workspace.document? own with
      | none => rfl
      | some document =>
          rw [held] at failed
          contradiction
  | closed own => contradiction
  | tokens own => exact serve_tokens workspace own

/-- What a request does to its own document. -/
theorem document?_serve_of_isOn {request : Request Uri} {uri : Uri}
    (on : request.isOn uri = true) :
    (workspace.serve request).1.document? uri = request.edit (workspace.document? uri) := by
  obtain rfl : request.uri = uri := beq_iff_eq.mp on
  cases request with
  | opened own languageId text => exact (document?_place ..).trans (if_pos rfl)
  | changed own text =>
      simp only [serve, Request.edit, Request.uri]
      cases held : workspace.document? own with
      | some document => exact (document?_place ..).trans (if_pos rfl)
      | none => exact held
  | closed own => exact (document?_close ..).trans (if_pos rfl)
  | tokens own => rw [serve_tokens, Request.edit]

/-- A request does nothing to the documents that it is not on. -/
theorem document?_serve_of_not_isOn {request : Request Uri} {uri : Uri}
    (off : ¬request.isOn uri = true) :
    (workspace.serve request).1.document? uri = workspace.document? uri := by
  have apart : uri ≠ request.uri := fun same => off (beq_iff_eq.mpr same.symm)
  cases request with
  | opened own languageId text => exact (document?_place ..).trans (if_neg apart)
  | changed own text =>
      simp only [serve]
      cases workspace.document? own with
      | some document => exact (document?_place ..).trans (if_neg apart)
      | none => rfl
  | closed own => exact (document?_close ..).trans (if_neg apart)
  | tokens own => rw [serve_tokens]

/-- What becomes of the document of a uri depends on that document and the request only. -/
theorem document?_serve (request : Request Uri) (uri : Uri) :
    (workspace.serve request).1.document? uri =
      if request.isOn uri then request.edit (workspace.document? uri)
      else workspace.document? uri := by
  split
  · rename_i on
    exact document?_serve_of_isOn workspace on
  · rename_i off
    exact document?_serve_of_not_isOn workspace off

/-! ## Requests in turn -/

theorem serveAll_cons (request : Request Uri) (later : List (Request Uri)) :
    workspace.serveAll (request :: later) =
      (((workspace.serve request).1.serveAll later).1,
        (workspace.serve request).2 :: ((workspace.serve request).1.serveAll later).2) :=
  rfl

theorem serveAll_append (earlier later : List (Request Uri)) :
    workspace.serveAll (earlier ++ later) =
      (((workspace.serveAll earlier).1.serveAll later).1,
        (workspace.serveAll earlier).2 ++ ((workspace.serveAll earlier).1.serveAll later).2) := by
  induction earlier generalizing workspace with
  | nil => rfl
  | cons request others inductionHypothesis =>
      rw [List.cons_append, serveAll_cons, inductionHypothesis]
      rfl

theorem serveAll_concat (earlier : List (Request Uri)) (request : Request Uri) :
    (workspace.serveAll (earlier ++ [request])).1 =
      ((workspace.serveAll earlier).1.serve request).1 := by
  rw [serveAll_append]
  rfl

theorem length_serveAll (requests : List (Request Uri)) :
    (workspace.serveAll requests).2.length = requests.length := by
  induction requests generalizing workspace with
  | nil => rfl
  | cons request later inductionHypothesis =>
      rw [serveAll_cons, List.length_cons, List.length_cons, inductionHypothesis]

/-- After every history a workspace holds of each document what the history has left of it. -/
theorem leftBy_serveAll (uri : Uri) (history : List (Request Uri)) :
    LeftBy uri history ((serveAll [] history).1.document? uri) := by
  -- What a history tells is looked for from its end, so requests are taken from there.
  induction history using List.reverseRecOn with
  | nil => exact nofun
  | append_singleton earlier request inductionHypothesis =>
      rw [serveAll_concat, document?_serve]
      split
      · rename_i on
        exact inductionHypothesis.concat_of_isOn on
      · rename_i off
        exact inductionHypothesis.concat_of_untold fun on => absurd on off

/-! ## Taking requests out of a history -/

/-- The requests of a history that are kept, for what they are and how they were answered. -/
def kept (keep : Request Uri × Answer → Bool) (history : List (Request Uri)) :
    List (Request Uri) :=
  ((history.zip (workspace.serveAll history).2).filter keep).map Prod.fst

theorem kept_cons (keep : Request Uri × Answer → Bool) (request : Request Uri)
    (later : List (Request Uri)) :
    workspace.kept keep (request :: later) =
      if keep (request, (workspace.serve request).2) then
        request :: (workspace.serve request).1.kept keep later
      else (workspace.serve request).1.kept keep later := by
  unfold kept
  rw [serveAll_cons, List.zip_cons_cons, List.filter_cons]
  split <;> rfl

/-- A request that makes no difference to a document leaves it as it was. -/
theorem document?_serve_of_not_kept {uri : Uri} {keep : Request Uri × Answer → Bool}
    (edits : KeepsEdits uri keep) {request : Request Uri}
    (dropped : ¬keep (request, (workspace.serve request).2) = true) :
    (workspace.serve request).1.document? uri = workspace.document? uri := by
  by_cases on : request.isOn uri = true
  · cases asks : request.asksForTokens with
    | true =>
        cases request <;> simp only [Request.asksForTokens, reduceCtorEq] at asks
        rw [serve_tokens]
    | false =>
        cases failed : (workspace.serve request).2.isFailure with
        | true => rw [serve_of_isFailure workspace failed]
        | false => exact absurd (edits request _ on asks failed) dropped
  · exact document?_serve_of_not_isOn workspace on

/-- Two workspaces that have the same document at a uri have the same one after a history and
after the requests of it that are kept. -/
theorem document?_serveAll_kept {uri : Uri} {keep : Request Uri × Answer → Bool}
    (edits : KeepsEdits uri keep) {other : Workspace Uri}
    (same : other.document? uri = workspace.document? uri) (history : List (Request Uri)) :
    (other.serveAll (workspace.kept keep history)).1.document? uri =
      (workspace.serveAll history).1.document? uri := by
  induction history generalizing workspace other with
  | nil => exact same
  | cons request later inductionHypothesis =>
      rw [kept_cons, serveAll_cons]
      split
      -- Both workspaces get a request that is kept; only `workspace` gets one that is not.
      · rw [serveAll_cons]
        apply inductionHypothesis
        rw [document?_serve, document?_serve, same]
      · rename_i dropped
        apply inductionHypothesis
        rw [document?_serve_of_not_kept workspace edits dropped, same]

/-! ## The answer to a request for tokens -/

/-- The answer to a request for tokens depends on its own document only. -/
theorem answer_tokens (uri : Uri) :
    (workspace.serve (.tokens uri)).2 =
      match workspace.document? uri with
      | some document => .ofData document.data
      | none => .notOpen := by
  simp only [serve]
  cases workspace.document? uri <;> rfl

end Workspace

/-- The answer to a request for tokens after a history. -/
def answerAfter (history : List (Request Uri)) (uri : Uri) : Answer :=
  ((Workspace.serveAll [] history).1.serve (.tokens uri)).2

section answerAfter

variable {history : List (Request Uri)} {uri : Uri}

/-- A request for tokens among others is answered after the requests before it. -/
theorem getElem?_answers (later : List (Request Uri)) :
    (Workspace.serveAll [] (history ++ .tokens uri :: later)).2[history.length]? =
      some (answerAfter history uri) := by
  have reached := Workspace.length_serveAll [] history
  rw [Workspace.serveAll_append, Workspace.serveAll_cons,
    List.getElem?_append_right (Nat.le_of_eq reached), reached, Nat.sub_self]
  rfl

theorem answerAfter_of_not_isOpen (shut : ¬IsOpen uri history) :
    answerAfter history uri = .notOpen := by
  have left := Workspace.leftBy_serveAll uri history
  rw [answerAfter, Workspace.answer_tokens]
  generalize (Workspace.serveAll [] history).1.document? uri = found at left ⊢
  cases found with
  | none => rfl
  | some document => exact absurd left.1 shut

theorem answerAfter_of_isOpen (isOpen : IsOpen uri history) :
    ∃ languageId text,
      lastTold Request.languageId? uri history = some languageId ∧
        lastTold Request.text? uri history = some text ∧
        answerAfter history uri =
          .ofData (Semantic.data (text.highlight (some (text.detect languageId)))) := by
  have left := Workspace.leftBy_serveAll uri history
  rw [answerAfter, Workspace.answer_tokens]
  generalize (Workspace.serveAll [] history).1.document? uri = found at left ⊢
  cases found with
  | none => exact absurd isOpen left
  | some document => exact ⟨document.languageId, document.text, left.2.1, left.2.2, rfl⟩

/-- There are no integers for a text exactly if it holds a surrogate. -/
theorem isFailure_ofData_iff {text : LooseText} {language : Option Language} :
    (Answer.ofData (Semantic.data (text.highlight language))).isFailure = true ↔
      ¬text.IsScalar := by
  have sent := @exists_data_iff (text.highlight language)
  rw [LooseText.source_highlight] at sent
  rw [← sent]
  cases Semantic.data (text.highlight language) with
  | ok integers => exact iff_of_false nofun (not_not_intro ⟨integers, rfl⟩)
  | error fault => exact iff_of_true rfl nofun

theorem isFailure_answerAfter_iff :
    (answerAfter history uri).isFailure = true ↔
      ¬IsOpen uri history ∨
        ∃ text, lastTold Request.text? uri history = some text ∧ ¬text.IsScalar := by
  by_cases isOpen : IsOpen uri history
  · obtain ⟨languageId, text, _, lastText, answered⟩ := answerAfter_of_isOpen isOpen
    rw [answered, isFailure_ofData_iff, lastText]
    constructor
    · exact fun surrogate => .inr ⟨text, rfl, surrogate⟩
    · rintro (shut | ⟨_, same, surrogate⟩)
      · exact absurd isOpen shut
      · exact Option.some.inj same ▸ surrogate
  · rw [answerAfter_of_not_isOpen isOpen]
    exact iff_of_true rfl (.inl isOpen)

/-- Requests that make no difference to a document have no part in the answer. -/
theorem answerAfter_kept {keep : Request Uri × Answer → Bool} (edits : KeepsEdits uri keep) :
    answerAfter (Workspace.kept [] keep history) uri = answerAfter history uri := by
  rw [answerAfter, answerAfter, Workspace.answer_tokens, Workspace.answer_tokens,
    Workspace.document?_serveAll_kept [] edits rfl]

end answerAfter

/-- The answer to a request for tokens, wherever it stands among other requests, is the one after
the requests before it.  It is a failure exactly if the document is not open, or the text of its
last opening or change holds a surrogate.  Of a document that is open it is made of the tokens of
that text, in the language detected with the id of its last opening as the hint.  No request on
another document, for tokens, or that failed has a part in the answer: it is the same without
them. -/
theorem answer_of_latest_state (history later : List (Request Uri)) (uri : Uri) :
    (Workspace.serveAll [] (history ++ .tokens uri :: later)).2[history.length]? =
        some (answerAfter history uri) ∧
      ((answerAfter history uri).isFailure = true ↔
        ¬IsOpen uri history ∨
          ∃ text, lastTold Request.text? uri history = some text ∧ ¬text.IsScalar) ∧
      (IsOpen uri history → ∃ languageId text,
        lastTold Request.languageId? uri history = some languageId ∧
          lastTold Request.text? uri history = some text ∧
          answerAfter history uri =
            .ofData (Semantic.data (text.highlight (some (text.detect languageId))))) ∧
      ∀ keep, KeepsEdits uri keep →
        answerAfter (Workspace.kept [] keep history) uri = answerAfter history uri :=
  ⟨getElem?_answers later, isFailure_answerAfter_iff, answerAfter_of_isOpen,
    fun _ => answerAfter_kept⟩

/-- A document keeps the language id of its opening when its text changes.  A change of a document
before its opening fails, and is one of the requests that can be taken out; after its closing the
document has no tokens. -/
theorem answer_of_latest_state_reopened :
    let history : List (Request String) :=
      [.opened "file:///a" (some "rs") "let",
        .changed "file:///c" "x",
        .opened "file:///c" (some "py") "x",
        .tokens "file:///a",
        .changed "file:///a" "let 1",
        .closed "file:///c"]
    let keep : Request String × Answer → Bool := fun (request, answer) =>
      request.isOn "file:///a" && !request.asksForTokens && !answer.isFailure
    IsOpen "file:///a" history ∧
      answerAfter history "file:///a" = .data [0, 0, 3, 2, 0, 0, 4, 1, 4, 0] ∧
      (answerAfter history "file:///c").isFailure = true ∧
      KeepsEdits "file:///a" keep ∧
      Workspace.kept [] keep history =
        [.opened "file:///a" (some "rs") "let", .changed "file:///a" "let 1"] ∧
      answerAfter (Workspace.kept [] keep history) "file:///a" =
        .data [0, 0, 3, 2, 0, 0, 4, 1, 4, 0] := by
  intro history keep
  have isOpen : IsOpen "file:///a" history := by decide +kernel
  have shut : ¬IsOpen "file:///c" history := by decide +kernel
  have edits : KeepsEdits "file:///a" keep := by
    intro request answer on asks failed
    simp only [keep, on, asks, failed, Bool.not_false, Bool.and_self]
  have data : answerAfter history "file:///a" = .data [0, 0, 3, 2, 0, 0, 4, 1, 4, 0] := by
    obtain ⟨languageId, text, lastId, lastText, answered⟩ :=
      (answer_of_latest_state history [] "file:///a").2.2.1 isOpen
    have ids : lastTold Request.languageId? "file:///a" history =
        some (some (LooseText.ofString "rs")) := by
      decide +kernel
    have texts : lastTold Request.text? "file:///a" history =
        some (LooseText.ofString "let 1") := by
      decide +kernel
    obtain rfl := Option.some.inj (ids.symm.trans lastId)
    obtain rfl := Option.some.inj (texts.symm.trans lastText)
    rw [answered]
    decide +kernel
  have fails := (answer_of_latest_state history [] "file:///c").2.1
  have removed := (answer_of_latest_state history [] "file:///a").2.2.2 keep edits
  exact ⟨isOpen, data, fails.mpr (.inl shut), edits, rfl, removed.trans data⟩

/-- A document is open and its comment holds a surrogate, so its tokens are refused. -/
theorem open_document_refused :
    let text : LooseText := LooseText.ofString "# " ++ [.surrogate .least]
    let history : List (Request String) := [.opened "file:///a" (some "py") text]
    IsOpen "file:///a" history ∧
      answerAfter history "file:///a" = .unencodable ⟨"utf-16-le", .least, 2, 1⟩ := by
  intro text history
  exact ⟨by decide +kernel, by decide +kernel⟩

end Highlighter.Semantic
