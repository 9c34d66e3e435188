import MakeAtlas.Markup.Color
import MakeAtlas.Table

/-!
# Styles of a text

A style is a list of words: attributes, which `not` turns off, a colour, a background colour after
`on`, and an address after `link`. Two lists of words are the same style if they have the same
normal form. A text that is no style is its own normal form, but for its case and the blanks around
it.
-/

namespace MakeAtlas.Markup

open MakeAtlas.Text

/-- The attributes, in the order in which a style names them. -/
def attributes : List String :=
  ["bold", "dim", "italic", "underline", "blink", "blink2", "reverse", "conceal", "strike",
    "underline2", "frame", "encircle", "overline"]

/-- The short names of attributes. -/
def shortAttributes : List (String × String) :=
  [("d", "dim"), ("b", "bold"), ("i", "italic"), ("u", "underline"), ("r", "reverse"),
    ("c", "conceal"), ("s", "strike"), ("uu", "underline2"), ("o", "overline")]

/-- The attribute that a word names. -/
def attributeNamed? (word : String) : Option String :=
  if attributes.contains word then some word else shortAttributes.lookup word

/-- A style as it is read: the attributes that are turned on or off, the colours and the address. -/
structure Style where
  attributes : Table Bool := []
  color : Option String := none
  background : Option String := none
  link : Option String := none

namespace Style

/-- Reads the words of a style. Without a style in them there is none. -/
def read (style : Style) : List (List Char) → Except ColorFault Style
  | [] => .ok style
  | word :: rest =>
    match String.ofList (lower word), rest with
    | "on", [] => .error .unknown
    | "on", name :: rest => do
      let color ← Markup.color name
      read { style with background := some color } rest
    | "not", [] => .error .unknown
    | "not", name :: rest =>
      match attributeNamed? (String.ofList name) with
      | some name => read { style with attributes := style.attributes.put name false } rest
      | none => .error .unknown
    | "link", [] => .error .unknown
    | "link", address :: rest => read { style with link := some (String.ofList address) } rest
    | name, rest =>
      match attributeNamed? name with
      | some name => read { style with attributes := style.attributes.put name true } rest
      | none => do
        let color ← Markup.color word
        read { style with color := some color } rest

/-- The words of a style in their normal order. -/
def words (style : Style) : List String :=
  let named := Markup.attributes.flatMap fun name =>
    match style.attributes.get? name with
    | some true => [name]
    | some false => ["not", name]
    | none => []
  named ++ style.color.toList ++ (style.background.map fun name => ["on", name]).getD [] ++
    (style.link.map fun address => ["link", address]).getD []

end Style

/-- The normal form of a style, or of a text that is none. -/
def normalStyle (cs : List Char) : Except ColorFault String :=
  if trim cs = "none".toList then .ok "none"
  else
    match Style.read {} (Text.words cs) with
    | .ok style => .ok (if style.words.isEmpty then "none" else String.intercalate " " style.words)
    | .error .unknown => .ok (String.ofList (lower (trim cs)))
    | .error .emptyComponent => .error .emptyComponent

end MakeAtlas.Markup
