import ModelForm.Regex.Basic

/-!
Patterns as they are written: the form of an expression before flags, names of
character classes and letter case get their meaning.
-/

namespace ModelForm.Regex

inductive Flag where
  | caseInsensitive
  | multiLine
  | dotMatchesNewline
  | swapGreed
  | unicode
  | crlf
  | verbose
  deriving DecidableEq, Repr, Inhabited

structure FlagChange where
  on : List Flag
  off : List Flag
  deriving DecidableEq, Repr, Inhabited

namespace FlagChange

def none : FlagChange := ⟨[], []⟩

def apply (change : FlagChange) (flag : Flag) (before : Bool) : Bool :=
  if change.on.contains flag then true
  else if change.off.contains flag then false
  else before

end FlagChange

inductive PerlClass where
  | digit
  | space
  | word
  deriving DecidableEq, Repr, Inhabited

inductive SetOp where
  | intersection
  | difference
  | symmetricDifference
  deriving DecidableEq, Repr, Inhabited

/-- A written set of characters. `byte` marks a character given by two hexadecimal digits. -/
inductive ClassTree where
  | nothing
  | char (c : Char) (byte : Bool)
  | range (first last : Char)
  | perl (kind : PerlClass) (negated : Bool)
  | property (name : String) (negated : Bool)
  | propertyValue (name value : String) (negated : Bool)
  | ascii (name : String) (negated : Bool)
  | bracketed (negated : Bool) (body : ClassTree)
  | union (items : List ClassTree)
  | op (kind : SetOp) (left right : ClassTree)
  deriving Repr, Inhabited

inductive Tree where
  | empty
  | flags (change : FlagChange)
  | char (c : Char) (byte : Bool)
  | dot
  | lineStart
  | lineEnd
  | look (ofAscii : Bool → Look)
  | set (items : ClassTree)
  | group (change : FlagChange) (body : Tree)
  | concat (parts : List Tree)
  | alternation (branches : List Tree)
  | times (body : Tree) (least : Nat) (most : Option Nat)
  deriving Inhabited

namespace Tree

def ofParts : List Tree → Tree
  | [] => .empty
  | [part] => part
  | parts => .concat parts

def ofBranches : List Tree → Tree
  | [] => .empty
  | [branch] => branch
  | branches => .alternation branches

end Tree

namespace ClassTree

def ofItems : List ClassTree → ClassTree
  | [] => .nothing
  | [item] => item
  | items => .union items

mutual

def depth : ClassTree → Nat
  | .bracketed _ body => body.depth + 1
  | .union items => depthItems items + 1
  | .op _ left right => max left.depth right.depth + 1
  | _ => 0

def depthItems : List ClassTree → Nat
  | [] => 0
  | item :: rest => max item.depth (depthItems rest)

end

end ClassTree

namespace Tree

mutual

def depth : Tree → Nat
  | .set items@(.bracketed _ _) => items.depth
  | .group _ body => body.depth + 1
  | .concat parts => depthParts parts + 1
  | .alternation branches => depthParts branches + 1
  | .times body _ _ => body.depth + 1
  | _ => 0

def depthParts : List Tree → Nat
  | [] => 0
  | part :: rest => max part.depth (depthParts rest)

end

end Tree

end ModelForm.Regex
