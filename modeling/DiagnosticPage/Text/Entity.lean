import DiagnosticPage.Text.Width

/-!
# Character entities

Text is written into a page with six character entities.  `escape` replaces the five characters
that markup gives a meaning of its own; `escapeSpaced` also replaces white space by no-break
spaces, so that a browser keeps its full width.  Both work one character at a time, hence the
written form of a text is the concatenation of the written forms of its characters.
-/

namespace DiagnosticPage.Text

/-- The character entities that a page uses. -/
inductive Entity where
  | ampersand
  | less
  | greater
  | quote
  | apostrophe
  | noBreakSpace
deriving DecidableEq

namespace Entity

/-- An entity as it stands in the markup, from its ampersand to its semicolon. -/
def written : Entity → List Char
  | ampersand => ['&', 'a', 'm', 'p', ';']
  | less => ['&', 'l', 't', ';']
  | greater => ['&', 'g', 't', ';']
  | quote => ['&', 'q', 'u', 'o', 't', ';']
  | apostrophe => ['&', '#', '3', '9', ';']
  | noBreakSpace => ['&', 'n', 'b', 's', 'p', ';']

/-- The character that a reader of the page sees in the place of an entity. -/
def meaning : Entity → Char
  | ampersand => '&'
  | less => '<'
  | greater => '>'
  | quote => '"'
  | apostrophe => '\''
  | noBreakSpace => '\u00a0'

end Entity

/-- The written form of one character. -/
def escapeChar : Char → List Char
  | '&' => Entity.ampersand.written
  | '<' => Entity.less.written
  | '>' => Entity.greater.written
  | '"' => Entity.quote.written
  | '\'' => Entity.apostrophe.written
  | c => [c]

/-- The written form of one character where white space keeps its width: a no-break space for
each column of a space or a tab. -/
def escapeCharSpaced (c : Char) : List Char :=
  if c = '\t' ∨ c = ' ' then (List.replicate (columns c) Entity.noBreakSpace.written).flatten
  else escapeChar c

/-- The written form of a text. -/
def escape (s : List Char) : List Char :=
  s.flatMap escapeChar

/-- The written form of a text whose white space keeps its width. -/
def escapeSpaced (s : List Char) : List Char :=
  s.flatMap escapeCharSpaced

@[simp] theorem escape_nil : escape [] = [] := rfl

@[simp] theorem escape_cons (c : Char) (s : List Char) :
    escape (c :: s) = escapeChar c ++ escape s := by
  simp [escape]

@[simp] theorem escape_append (s t : List Char) : escape (s ++ t) = escape s ++ escape t := by
  simp [escape]

@[simp] theorem escapeSpaced_nil : escapeSpaced [] = [] := rfl

@[simp] theorem escapeSpaced_cons (c : Char) (s : List Char) :
    escapeSpaced (c :: s) = escapeCharSpaced c ++ escapeSpaced s := by
  simp [escapeSpaced]

@[simp] theorem escapeSpaced_append (s t : List Char) :
    escapeSpaced (s ++ t) = escapeSpaced s ++ escapeSpaced t := by
  simp [escapeSpaced]

end DiagnosticPage.Text
