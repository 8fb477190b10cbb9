import Highlighter.Semantic.Tokens

/-!
# A workspace of open documents

A workspace holds the documents that an editor has open, each with its language id
and its latest text, by their uris.  A request for tokens is answered from the document
alone: the language id is the hint, and the text is scanned anew.

Nothing matters of a uri but whether it is the same as another one.  What becomes of
uris before they are looked up, and of a document that is not open, is left to the library
that keeps the workspace; here such a document has no tokens.
-/

namespace Highlighter.Semantic

/-- An open document. -/
structure Document where
  languageId : Option LooseText
  text : LooseText
  deriving DecidableEq, Repr

namespace Document

/-- The integers that report the tokens of a document. -/
def data (document : Document) : Except Unencodable (List Int) :=
  let language := document.text.detect document.languageId
  Semantic.data (document.text.highlight (some language))

end Document

/-- The open documents by their uris. -/
abbrev Workspace (Uri : Type) := List (Uri × Document)

/-- A request of an editor. -/
inductive Request (Uri : Type) where
  /-- Open a document, or replace one that is open. -/
  | opened (uri : Uri) (languageId : Option LooseText) (text : LooseText)
  /-- Replace the text of an open document. -/
  | changed (uri : Uri) (text : LooseText)
  | closed (uri : Uri)
  /-- Ask for the tokens of a document. -/
  | tokens (uri : Uri)
  deriving Repr

/-- The answer to a request. -/
inductive Answer where
  | done
  | data (integers : List Int)
  /-- A change of a document that is not open, or a request for its tokens. -/
  | notOpen
  /-- A request for the tokens of a document with a surrogate in its text. -/
  | unencodable (fault : Unencodable)
  deriving DecidableEq, Repr

/-- The answer to a request for tokens that there are integers for, or a fault. -/
def Answer.ofData : Except Unencodable (List Int) → Answer
  | .ok integers => data integers
  | .error fault => unencodable fault

namespace Workspace

variable {Uri : Type} [DecidableEq Uri]

/-- The open document of a uri. -/
def document? (workspace : Workspace Uri) (uri : Uri) : Option Document :=
  workspace.lookup uri

/-- A workspace without the document of a uri. -/
def close (workspace : Workspace Uri) (uri : Uri) : Workspace Uri :=
  workspace.filter (·.1 != uri)

/-- Closing a document leaves the others as they are. -/
theorem document?_close (workspace : Workspace Uri) (uri asked : Uri) :
    (workspace.close uri).document? asked =
      if asked = uri then none else workspace.document? asked := by
  unfold close document?
  induction workspace with
  | nil => rw [List.filter_nil, List.lookup_nil, ite_self]
  | cons pair later inductionHypothesis =>
      by_cases closed : pair.1 = uri
      · rw [List.filter_cons, if_neg (by simp [closed]), inductionHypothesis]
        by_cases same : asked = uri
        · rw [if_pos same, if_pos same]
        · have passed : (asked == pair.1) = false :=
            beq_eq_false_iff_ne.mpr fun found => same (found.trans closed)
          rw [if_neg same, if_neg same, List.lookup_cons, passed]
      · rw [List.filter_cons, if_pos (by simp [closed]), List.lookup_cons, List.lookup_cons,
          inductionHypothesis]
        by_cases same : asked = uri
        · have passed : (asked == pair.1) = false :=
            beq_eq_false_iff_ne.mpr fun found => closed (found.symm.trans same)
          rw [if_pos same, passed]
          exact (if_pos same).symm
        · rw [if_neg same, if_neg same]

/-- A workspace with a document, in place of an earlier one of the uri. -/
def place (workspace : Workspace Uri) (uri : Uri) (document : Document) : Workspace Uri :=
  (uri, document) :: workspace.close uri

/-- A document that was placed is open, and the others are as they were. -/
theorem document?_place (workspace : Workspace Uri) (uri asked : Uri) (document : Document) :
    (workspace.place uri document).document? asked =
      if asked = uri then some document else workspace.document? asked := by
  have closed := document?_close workspace uri asked
  unfold document? at closed ⊢
  unfold place
  rw [List.lookup_cons]
  by_cases same : asked = uri
  · rw [if_pos same, beq_iff_eq.mpr same]
  · rw [if_neg same, beq_eq_false_iff_ne.mpr same, closed]
    exact if_neg same

/-- The workspace after a request, and the answer. -/
def serve (workspace : Workspace Uri) : Request Uri → Workspace Uri × Answer
  | .opened uri languageId text => (workspace.place uri ⟨languageId, text⟩, .done)
  | .changed uri text =>
      match workspace.document? uri with
      | some document => (workspace.place uri { document with text := text }, .done)
      | none => (workspace, .notOpen)
  | .closed uri => (workspace.close uri, .done)
  | .tokens uri =>
      match workspace.document? uri with
      | some document => (workspace, .ofData document.data)
      | none => (workspace, .notOpen)

/-- The workspace after requests in turn, and their answers. -/
def serveAll (workspace : Workspace Uri) : List (Request Uri) → Workspace Uri × List Answer
  | [] => (workspace, [])
  | request :: later =>
      let (next, answer) := workspace.serve request
      let (reached, answers) := next.serveAll later
      (reached, answer :: answers)

end Workspace

end Highlighter.Semantic
