import MetricLoad.Text.Blank
import MetricLoad.Text.Utf8

/-!
# Query expression templates

A template is text with placeholders between `<<` and `>>`.  Two placeholders are known: `.Name`
stands for the metric name and `.Matchers` for the list of label matchers; blanks around them do not
count.  A placeholder begins at the first `<<` behind the previous one and ends at the next `>>`.
Rendering replaces all placeholders at once, so texts put in are never searched again.
-/

namespace MetricLoad

open MetricLoad.Text

/-- Why a template is refused. -/
inductive TemplateError
  /-- A placeholder without its end, at the given byte offset. -/
  | unterminated (offset : Nat)
  | unknownPlaceholder (name : String)
  deriving DecidableEq, Repr

/-- The wording of an error. -/
def TemplateError.message : TemplateError → String
  | .unterminated offset => "unterminated placeholder at offset " ++ toString offset
  | .unknownPlaceholder name =>
    "unknown placeholder `" ++ name ++ "`, expected `.Name` or `.Matchers`"

/-- A piece of a template. -/
inductive TemplateSegment
  | literal (text : List Char)
  | name
  | matchers
  deriving DecidableEq, Repr

/-- A parsed template. -/
structure QueryTemplate where
  segments : List TemplateSegment
  deriving DecidableEq, Repr

namespace QueryTemplate

/-- The texts before and after the first place where `c` stands twice. -/
def splitPair? (c : Char) : List Char → Option (List Char × List Char)
  | [] => none
  | [_] => none
  | a :: b :: rest =>
    if a = c ∧ b = c then some ([], rest)
    else (splitPair? c (b :: rest)).map fun (before, after) => (a :: before, after)

theorem splitPair?_eq_some {c : Char} {s before after : List Char}
    (h : splitPair? c s = some (before, after)) : s = before ++ c :: c :: after := by
  fun_induction splitPair? c s generalizing before after with
  | case1 => simp at h
  | case2 => simp at h
  | case3 a b rest hab => simp_all
  | case4 a b rest hab ih =>
    simp only [Option.map_eq_some_iff, Prod.exists] at h
    obtain ⟨x, y, hxy, heq⟩ := h
    simp only [Prod.mk.injEq] at heq
    obtain ⟨rfl, rfl⟩ := heq
    rw [ih hxy]
    rfl

/-- A literal piece, left out when it is empty. -/
def literal (s : List Char) : List TemplateSegment :=
  if s.isEmpty then [] else [.literal s]

/-- The segment that the text between the delimiters names. -/
def placeholder? (inner : List Char) : Except TemplateError TemplateSegment :=
  let name := String.ofList (trim inner)
  if name = ".Name" then .ok .name
  else if name = ".Matchers" then .ok .matchers
  else .error (.unknownPlaceholder name)

/-- The segments of the characters from the given byte offset on. -/
def segmentsFrom (offset : Nat) (s : List Char) : Except TemplateError (List TemplateSegment) :=
  match _hopen : splitPair? '<' s with
  | none => .ok (literal s)
  | some (before, behind) =>
    match _hclose : splitPair? '>' behind with
    | none => .error (.unterminated (offset + byteCount before))
    | some (inner, after) =>
      match placeholder? inner with
      | .error e => .error e
      | .ok segment =>
        match segmentsFrom (offset + byteCount before + 2 + byteCount inner + 2) after with
        | .error e => .error e
        | .ok segments => .ok (literal before ++ segment :: segments)
termination_by s.length
decreasing_by
  rw [splitPair?_eq_some _hopen, splitPair?_eq_some _hclose]
  simp only [List.length_append, List.length_cons]
  omega

/-- Parses a template. -/
def parse (source : String) : Except TemplateError QueryTemplate :=
  (segmentsFrom 0 source.toList).map (⟨·⟩)

/-- The text that a segment stands for. -/
def segmentText (name matchers : List Char) : TemplateSegment → List Char
  | .literal text => text
  | .name => name
  | .matchers => matchers

/-- The template with its placeholders replaced. -/
def render (t : QueryTemplate) (name matchers : String) : String :=
  String.ofList (t.segments.flatMap (segmentText name.toList matchers.toList))

end QueryTemplate
end MetricLoad
