/-
**Text with tags.**

A tag stands in square brackets and begins with a small letter, `#`, `/` or `@`; anything else in
brackets is text.  A tag styles what follows it; a tag that begins with `/` ends the last open tag
of its name, or the last one of all if it has no name.  A backslash before a tag makes it text.  On
a console without colours nothing of a style is seen, so that what is left is the text; but the
names of styles are read, and once more when the text is drawn.  A half of a character is as wide as
U+FFFD, for which it also stands in the name of a tag.

Main definitions:

* `EntryTemplates.Console.Problem` — why a text cannot be shown;
* `EntryTemplates.Console.Markup.pieces` — text and tags;
* `EntryTemplates.Console.Markup.Reading.step` — what a piece adds to what has been read;
* `EntryTemplates.Console.Markup.read` — **the text without its tags**.
-/

import EntryTemplates.Console.Emoji
import EntryTemplates.Console.Lines
import EntryTemplates.Console.Literal
import EntryTemplates.Text.Word

set_option relaxedAutoImplicit false
set_option autoImplicit false

namespace EntryTemplates.Console

open Text (Letter)

/-- A tag: its name, in the shape of its letters, and what follows an equals sign. -/
structure Tag where
  name : List Char
  parameters : Option (List Letter)
  deriving DecidableEq, Repr

/-- The characters that letters look like. -/
def shapes (s : List Letter) : List Char := s.map Letter.shape

/-- The text of a tag. -/
def Tag.text (t : Tag) : String :=
  let inner := match t.parameters with
    | some parameters => t.name ++ '=' :: shapes parameters
    | none => t.name
  "[" ++ String.ofList inner ++ "]"

/-- A tag from what stands in its brackets. -/
def Tag.ofInner (s : List Letter) : Tag :=
  match s.span (·.shape ≠ '=') with
  | (name, []) => ⟨shapes name, none⟩
  | (name, _ :: parameters) => ⟨shapes name, some parameters⟩

/-- Why a text cannot be shown. -/
inductive Problem where
  /-- No tag of that name is open. -/
  | unmatched (t : Tag)
  /-- No tag is open. -/
  | nothingOpen
  /-- The parameters of an action cannot be read. -/
  | unreadable (parameters : String)
  /-- A part of a colour is no number. -/
  | colour (n : NoNumber)
  /-- A character is halved. -/
  | halved (e : Text.EncodeError)
  deriving DecidableEq, Repr

/-- The report on a text that cannot be shown. -/
def Problem.message : Problem → String
  | .unmatched t => "closing tag '" ++ t.text ++ "' doesn't match any open tag"
  | .nothingOpen => "closing tag '[/]' has nothing to close"
  | .unreadable parameters => "error parsing '" ++ parameters ++ "'"
  | .colour n => n.message
  | .halved e => e.message

namespace Markup

/-! ### Text and tags -/

/-- Text, or a tag. -/
inductive Piece where
  | text (s : List Letter)
  | tag (t : Tag)
  deriving DecidableEq, Repr

/-- The characters that begin a tag. -/
def beginsTag (c : Char) : Bool := ('a' ≤ c && c ≤ 'z') || c = '#' || c = '/' || c = '@'

/-- What stands in the brackets of a tag whose opening bracket stands before the text. -/
def innerOf? : List Letter → Option (List Letter)
  | [] => none
  | c :: rest =>
      if beginsTag c.shape then
        let inner := rest.takeWhile fun c => c.shape ≠ '[' && c.shape ≠ ']'
        match rest.drop inner.length with
        | d :: _ => if d.shape = ']' then some (c :: inner) else none
        | [] => none
      else none

/-- Text as a piece, if there is any. -/
def textPiece (s : List Letter) : List Piece := if s.isEmpty then [] else [.text s]

/-- The pieces of a tag after some text (in reverse): of the backslashes before it every two stand
for one, and a single one makes it text. -/
def tagPieces (before inner : List Letter) : List Piece :=
  let slashes := (before.takeWhile (·.shape = '\\')).length
  textPiece (before.drop slashes).reverse
    ++ textPiece (List.replicate (slashes / 2) (.char '\\'))
    ++ [if slashes % 2 = 1 then .text (.char '[' :: inner ++ [.char ']']) else .tag (.ofInner inner)]

/-- The pieces of a text without its first `skip` letters, after some text (in reverse). -/
def piecesAfter : Nat → List Letter → List Letter → List Piece
  | _, before, [] => textPiece before.reverse
  | skip + 1, before, _ :: rest => piecesAfter skip before rest
  | 0, before, c :: rest =>
      if c.shape = '[' then
        match innerOf? rest with
        | some inner => tagPieces before inner ++ piecesAfter (inner.length + 1) [] rest
        | none => piecesAfter 0 (c :: before) rest
      else piecesAfter 0 (c :: before) rest

/-- **Text and tags.** -/
def pieces (s : List Letter) : List Piece := piecesAfter 0 [] s

/-! ### Actions -/

/-- The arguments of an action in parentheses: the action may have a name and no arguments. -/
def arguments (parameters : List Char) : List Char :=
  match parameters.dropWhile fun c => Text.isWord c || c = '.' with
  | [] => "()".toList
  | '(' :: rest =>
      if rest.getLast? = some ')' && !rest.contains '\n' then '(' :: rest else parameters
  | _ => parameters

/-- Whether the parameters of an action can be read: its arguments are a value.  What holds a half
of a character is no source of a value. -/
def isAction (parameters : List Letter) : Bool :=
  parameters.all (fun c => c.half?.isNone)
    && Literal.isValue (arguments (Text.trim (shapes parameters)))

/-! ### Opening and closing -/

/-- An open tag: the normal form of its name, its parameters, and the length of the text before
it. -/
structure Opened where
  name : String
  parameters : Option (List Letter)
  start : Nat

/-- Whether a tag stands for an action. -/
def Opened.isAction (o : Opened) : Bool := o.name.toList.head? = some '@'

/-- The name of the style that a tag stands for. -/
def Opened.style (o : Opened) : List Char :=
  match o.parameters with
  | some parameters => o.name.toList ++ ' ' :: shapes parameters
  | none => o.name.toList

/-- The last open tag of a name, and the others. -/
def takeNamed? (name : String) : List Opened → Option (Opened × List Opened)
  | [] => none
  | o :: os =>
      if o.name = name then some (o, os)
      else (takeNamed? name os).map fun (found, others) => (found, o :: others)

/-- The tag that a closing one closes, and the other open tags, the last one of which comes first. -/
def closing (t : Tag) (stack : List Opened) : Except Problem (Opened × List Opened) :=
  let name := Text.trim (t.name.drop 1)
  if name.isEmpty then
    match stack with
    | o :: os => .ok (o, os)
    | [] => .error .nothingOpen
  else do
    let name ← (Style.normalName name).mapError .colour
    match takeNamed? name stack with
    | some found => return found
    | none => throw (.unmatched t)

/-! ### The text that is seen -/

/-- The characters that a console does not draw: bell, backspace, and the breaks other than a line
feed. -/
def isUndrawn (c : Char) : Bool := c ∈ ['\x07', '\x08', '\x0b', '\x0c', '\x0d']

/-- A text as it is drawn. -/
def drawn (s : List Letter) : List Letter := (withPictures s).filter fun c => !isUndrawn c.shape

/-- A text in which a backslash before a bracket is left out. -/
def unescaped : List Letter → List Letter
  | .char '\\' :: .char '[' :: rest => .char '[' :: unescaped rest
  | c :: rest => c :: unescaped rest
  | [] => []

/-- Letters in no style. -/
def unstyled (s : List Letter) : List Glyph := s.map fun letter => { letter }

/-- What has been read of a text with tags: the text so far, and the tags that are open. -/
structure Reading where
  painted : Painted := ⟨[], []⟩
  stack : List Opened := []

namespace Reading

/-- A text in which the style of a tag that is closed cannot be read. -/
def mar (p : Painted) (start : Nat) (n : NoNumber) : Painted :=
  if p.glyphs.length ≤ start then { p with marks := p.marks ++ [⟨start, n⟩] }
  else { p with glyphs := p.glyphs.mapIdx fun i g =>
    if start ≤ i then { g with trouble := g.trouble.or n } else g }

/-- A text in the style of a tag that is closed. -/
def paint (p : Painted) (o : Opened) : Painted :=
  match Style.read o.style with
  | .ok _ => p
  | .error n => mar p o.start n

/-- What has been read after a piece. -/
def step (r : Reading) : Piece → Except Problem Reading
  | .text s =>
      .ok { r with painted :=
        { r.painted with glyphs := r.painted.glyphs ++ unstyled (drawn (unescaped s)) } }
  | .tag t =>
      if t.name.head? = some '/' then do
        let (o, stack) ← closing t r.stack
        if !o.isAction then return { painted := paint r.painted o, stack }
        else if o.parameters.all isActionText then return { r with stack }
        else throw (.unreadable (String.ofList (shapes (o.parameters.getD []))))
      else do
        let name ← (Style.normalName t.name).mapError .colour
        return { r with stack := ⟨name, t.parameters, r.painted.glyphs.length⟩ :: r.stack }
where
  /-- Whether the parameters of an action are empty or can be read. -/
  isActionText (parameters : List Letter) : Bool := parameters.isEmpty || Markup.isAction parameters

/-- The text once all tags are closed that are still open. -/
def finish (r : Reading) : Painted := r.stack.foldl paint r.painted

end Reading

/-- **The text without its tags.** -/
def read (markup : Text.Loose) : Except Problem Painted :=
  let s := markup.letters
  if s.contains (.char '[') then
    ((pieces s).foldlM Reading.step {}).map Reading.finish
  else .ok { glyphs := unstyled (drawn s) }

end Markup

end EntryTemplates.Console
