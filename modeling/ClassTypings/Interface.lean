import ClassTypings.Text.Basic
/-!
# Interfaces

An interface declaration: its name, the interfaces that it extends and its member lines. An
interface may lack a name; then its declaration has none.

The dump of an interface is an object of three fields, indented by two spaces. Of the characters in a
string only the quote, the backslash and the controls below the space are escaped.
-/
namespace ClassTypings

structure Interface where
  name : Text := []
  parents : List Text := []
  members : List Text := []
  deriving DecidableEq, Repr

namespace Interface

/-- The interface under a new name, which is `name` and the suffix. -/
def withName (i : Interface) (name suffix : Text) : Interface :=
  { i with name := name ++ suffix }

/-- The interface with one more parent, which is called `name` and the suffix. -/
def addParent (i : Interface) (name suffix : Text) : Interface :=
  { i with parents := i.parents ++ [name ++ suffix] }

def addMember (i : Interface) (line : Text) : Interface :=
  { i with members := i.members ++ [line] }

/-- The comment above a declaration. It names the tool that wrote the file. -/
def heading (banner : Text) : Text :=
  "/* Generated automatically by ".toList ++ banner ++ " */\n\n".toList

/-- The name in a declaration, after a space. -/
def nameClause (name : Text) : Text :=
  if name.isEmpty then [] else ' ' :: name

/-- The parents in a declaration, if there are any. -/
def extendsClause (parents : List Text) : Text :=
  if parents.isEmpty then [] else " extends ".toList ++ ", ".toList.intercalate parents

def memberLine (line : Text) : Text := '\t' :: line ++ ['\n']

/-- The declaration as text, under its heading. -/
def render (banner : Text) (i : Interface) : Text :=
  heading banner ++ "interface".toList ++ nameClause i.name ++ extendsClause i.parents ++
    " \x7b\n".toList ++ i.members.flatMap memberLine ++ "\x7d\n".toList

end Interface

namespace Json

/-- One character inside the quotes of a string. -/
def stringChar (c : Char) : Text :=
  match c with
  | '"' => ['\\', '"']
  | '\\' => ['\\', '\\']
  | '\x08' => ['\\', 'b']
  | '\t' => ['\\', 't']
  | '\n' => ['\\', 'n']
  | '\x0c' => ['\\', 'f']
  | '\r' => ['\\', 'r']
  | _ =>
    if c.toNat < 32 then
      ['\\', 'u', '0', '0', Nat.digitChar (c.toNat / 16), Nat.digitChar (c.toNat % 16)]
    else [c]

def string (t : Text) : Text := '"' :: t.flatMap stringChar ++ ['"']

/-- The start of a line at some depth of nesting. -/
def newline (depth : Nat) : Text := '\n' :: List.replicate (2 * depth) ' '

/-- A list of strings that stands at some depth of nesting. -/
def stringList (depth : Nat) (ts : List Text) : Text :=
  if ts.isEmpty then ['[', ']']
  else
    '[' :: newline (depth + 1) ++
      (',' :: newline (depth + 1)).intercalate (ts.map string) ++ newline depth ++ [']']

def field (name value : Text) : Text := string name ++ [':', ' '] ++ value

end Json

/-- The dump of an interface. -/
def Interface.toJson (i : Interface) : Text :=
  '\x7b' :: Json.newline 1 ++
    (',' :: Json.newline 1).intercalate [
      Json.field "name".toList (Json.string i.name),
      Json.field "extends".toList (Json.stringList 1 i.parents),
      Json.field "properties".toList (Json.stringList 1 i.members)] ++
    Json.newline 0 ++ ['\x7d']

end ClassTypings
