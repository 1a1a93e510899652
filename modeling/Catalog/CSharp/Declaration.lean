import Catalog.CSharp.Tree
import Catalog.Text.Blank

/-! Declarations of C# source: what stands in a file, a namespace or the body of a type. -/
namespace Catalog.CSharp

open Text

structure Argument where
  type : String
  name : String
  deriving DecidableEq, Repr, Inhabited

/-- A type declaration without its body. -/
structure TypeHead where
  keyword : String
  modifiers : List String
  name : String
  base : Option String
  deriving DecidableEq, Repr, Inhabited

structure PropertyDeclaration where
  attributes : List String
  type : String
  name : String
  initial : Option String
  deriving DecidableEq, Repr, Inhabited

structure MethodDeclaration where
  modifiers : List String
  returnType : String
  name : String
  arguments : List Argument
  deriving DecidableEq, Repr, Inhabited

/-- What stands in a body, in order. A conditional holds what its directives enclose; a namespace for the whole
file has no body, and what follows it stands beside it. -/
inductive Item where
  | comment (text : String)
  | conditional (items : List Item)
  | nameSpace (name : String) (body : List Item)
  | fileSpace (name : String)
  | type (head : TypeHead) (body : List Item)
  | property (declaration : PropertyDeclaration)
  | method (declaration : MethodDeclaration)
  | other
  deriving Repr, Inhabited

/-- Words that say how a declaration is to be taken. -/
def modifierWords : List String := [
  "abstract", "async", "const", "extern", "file", "fixed", "internal", "new", "override", "partial", "private",
  "protected", "public", "readonly", "required", "sealed", "static", "unsafe", "virtual", "volatile"]

/-- Words that a type declaration begins with. -/
def typeWords : List String := ["class", "struct", "interface", "record", "enum"]

/-- The trees without those that are no part of a declaration at their front. -/
def skipAsides (ts : List Tree) : List Tree :=
  ts.dropWhile Tree.isAside

/-- The text with each run of blank characters as one space. -/
def typeText (ts : List Tree) : String :=
  collapse (String.ofList (Tree.sourceOf ts))

/-- The source text without blank characters at either end. -/
def trimmedSource (ts : List Tree) : String :=
  String.ofList (trimChars (Tree.sourceOf ts))

/-! Splitting into declarations -/

/-- Whether an equals sign follows, comments and directives left out. -/
def equalsFollows (ts : List Tree) : Bool :=
  match skipAsides ts with
  | t :: _ => t.isMark "="
  | [] => false

/-- Whether the trees are an attribute list for the assembly or module. -/
def isGlobalAttribute (t : Tree) : Bool :=
  t.isSquare &&
    match skipAsides t.content with
    | target :: colon :: _ => (target.isWord "assembly" || target.isWord "module") && colon.isMark ":"
    | _ => false

/-- The trees of the declaration that begins here and those after it. A declaration ends with a semicolon or,
before any equals sign or arrow, with a body in braces; an equals sign after the braces leads on. `valued`
tells that an equals sign or arrow went before, `held` are the trees so far, last one first. -/
def splitDeclaration (valued : Bool) (held : List Tree) : List Tree → List Tree × List Tree
  | [] => (held.reverse, [])
  | t :: ts =>
    if t.isMark ";" then ((t :: held).reverse, ts)
    else if t.isMark "=" || t.isMark "=>" then splitDeclaration true (t :: held) ts
    else if t.isCurly && !valued && !equalsFollows ts then ((t :: held).reverse, ts)
    else splitDeclaration valued (t :: held) ts

/-! Types and names -/

/-- The trees inside a pair of angle brackets that was opened, the closing one included, and the rest. -/
def takeAngles (depth : Nat) : List Tree → List Tree × List Tree
  | [] => ([], [])
  | t :: ts =>
    if t.isMark ">" then
      if depth ≤ 1 then ([t], ts)
      else
        let (inside, rest) := takeAngles (depth - 1) ts
        (t :: inside, rest)
    else
      let (inside, rest) := takeAngles (if t.isMark "<" then depth + 1 else depth) ts
      (t :: inside, rest)

def takeTypeArguments (ts : List Tree) : List Tree × List Tree :=
  match ts with
  | t :: rest =>
    if t.isMark "<" then
      let (inside, rest') := takeAngles 1 rest
      (t :: inside, rest')
    else ([], ts)
  | [] => ([], [])

/-- Whether the tree joins the parts of a name. -/
def isNameJoint (t : Tree) : Bool :=
  t.isMark "." || t.isMark "::"

/-- A name of words with type arguments, joined by dots or double colons. `fuel` bounds the number of words. -/
def takeName : Nat → List Tree → List Tree × List Tree
  | 0, ts => ([], ts)
  | fuel + 1, ts =>
    match ts with
    | word :: rest =>
      if word.word?.isSome then
        let (arguments, rest') := takeTypeArguments rest
        match rest' with
        | joint :: rest'' =>
          if isNameJoint joint then
            let (more, final) := takeName fuel rest''
            (word :: arguments ++ joint :: more, final)
          else (word :: arguments, rest')
        | [] => (word :: arguments, [])
      else ([], ts)
    | [] => ([], [])

/-- Whether the tree makes an array, pointer or nullable type of the type before it. -/
def isTypeSuffix (t : Tree) : Bool :=
  t.isMark "?" || t.isMark "*" || t.isSquare

/-- A type without `ref`: a tuple, a function pointer or a name, with suffixes. -/
def takePlainType (ts : List Tree) : List Tree × List Tree :=
  let (core, rest) : List Tree × List Tree :=
    match ts with
    | t :: star :: rest =>
      if t.isRound then ([t], star :: rest)
      else if t.isWord "delegate" && star.isMark "*" then
        let convention := rest.takeWhile fun (u : Tree) => u.word?.isSome || u.isSquare
        let (arguments, rest') := takeTypeArguments (rest.drop convention.length)
        (t :: star :: convention ++ arguments, rest')
      else takeName ts.length ts
    | _ => takeName ts.length ts
  if core.isEmpty then ([], ts) else (core ++ rest.takeWhile isTypeSuffix, rest.dropWhile isTypeSuffix)

/-- A type, which `ref` or `ref readonly` may lead in. -/
def takeType (ts : List Tree) : List Tree × List Tree :=
  let lead := ts.takeWhile fun t => t.isWord "ref" || t.isWord "readonly"
  let (type, rest) := takePlainType (ts.drop lead.length)
  if type.isEmpty then ([], ts) else (lead ++ type, rest)

/-- The name that is declared: the last word of a dotted one. -/
def takeDeclaredName (ts : List Tree) : Option String × List Tree :=
  let (name, rest) := takeName ts.length ts
  let plain := name.foldl (fun (last, depth) t =>
    if t.isMark "<" then (last, depth + 1)
    else if t.isMark ">" then (last, depth - 1)
    else if depth = 0 then ((t.word?.orElse fun _ => last), depth)
    else (last, depth)) ((none : Option String), (0 : Nat))
  (plain.1, rest)

/-! Lists separated by commas -/

/-- The pieces between commas outside angle brackets; after an equals sign angle brackets do not count.
`depth` is the number of open ones, `held` the piece so far, last tree first. -/
def splitCommas (depth : Nat) (valued : Bool) (held : List Tree) : List Tree → List (List Tree)
  | [] => [held.reverse]
  | t :: ts =>
    if t.isMark "," && depth = 0 then held.reverse :: splitCommas 0 false [] ts
    else if t.isMark "=" && depth = 0 then splitCommas 0 true (t :: held) ts
    else if t.isMark "<" && !valued then splitCommas (depth + 1) valued (t :: held) ts
    else if t.isMark ">" && !valued then splitCommas (depth - 1) valued (t :: held) ts
    else splitCommas depth valued (t :: held) ts

/-- The name of an attribute without qualifiers and without the ending `Attribute`. -/
def attributeName (ts : List Tree) : Option String :=
  let ts := skipAsides ts
  let named :=
    match ts with
    | target :: colon :: rest => if target.word?.isSome && colon.isMark ":" then skipAsides rest else ts
    | _ => ts
  match takeName named.length named with
  | ([], _) => none
  | (name, _) =>
    let last := afterLast (String.ofList (Tree.sourceOf (Tree.trimComments name))) '.'
    some (if finishesWith last "Attribute" then dropLast last 9 else last)

def attributeNames (t : Tree) : List String :=
  (splitCommas 0 false [] t.content).filterMap attributeName

/-- Words before the type of a parameter. -/
def argumentWords : List String := ["this", "scoped", "ref", "out", "in", "readonly"]

/-- Whether the tree is an attribute list or a word before the type of a parameter. -/
def leadsArgument (t : Tree) : Bool :=
  t.isAside || t.isSquare || argumentWords.any t.isWord

/-- A parameter; a parameter array is passed over. -/
def argument? (ts : List Tree) : Option Argument :=
  let body := ts.dropWhile leadsArgument
  match body with
  | [] => none
  | t :: _ =>
    if t.isWord "params" then none
    else if t.isWord "__arglist" then some ⟨"", "__arglist"⟩
    else
      let (type, rest) := takeType body
      match (skipAsides rest).head?.bind Tree.word? with
      | some name => some ⟨typeText type, name⟩
      | none => none

def argumentsOf (t : Tree) : List Argument :=
  (splitCommas 0 false [] t.content).filterMap argument?

/-! Declarations -/

/-- The part of a declaration before what gives it a body or value. -/
def beforeBody (ts : List Tree) : List Tree :=
  ts.takeWhile fun t => !(t.isCurly || t.isMark ";" || t.isMark "=>")

/-- What stands first after the colon of a type declaration, before any constraint: a comment or a type. -/
def baseOf (ts : List Tree) : Option String :=
  match (beforeBody ts).dropWhile fun t => !t.isMark ":" && !t.isWord "where" with
  | colon :: first :: rest =>
    if !colon.isMark ":" then none
    else if first.isComment then some (trimmedSource [first])
    else
      match takeType (first :: rest) with
      | ([], _) => none
      | (type, _) => some (trimmedSource type)
  | _ => none

/-- What stands in the braces of a declaration, if it has any. -/
def body? (ts : List Tree) : Option (List Tree) :=
  (ts.find? fun t => t.isCurly).map Tree.content

/-- The value after the equals sign of a property, which may be a comment. -/
def initialOf (ts : List Tree) : Option String :=
  match ts.dropWhile fun t => !t.isMark "=" with
  | _ :: first :: rest =>
    if first.isComment then some (trimmedSource [first])
    else
      let value := ((first :: rest).takeWhile fun t => !t.isMark ";").reverse.dropWhile Tree.isComment
      if value.isEmpty then none else some (trimmedSource value.reverse)
  | _ => none

/-- A declaration other than that of a type or namespace, from its type on. -/
def memberOf (attributes modifiers : List String) (ts : List Tree) : Item :=
  let (type, rest) := takeType ts
  if type.isEmpty then .other
  else
    match takeDeclaredName (skipAsides rest) with
    | (none, _) => .other
    | (some name, rest') =>
      if name = "operator" || name = "this" then .other
      else
        match skipAsides rest' with
        | [] => .other
        | t :: more =>
          if t.isRound then
            .method ⟨modifiers, typeText type, name, argumentsOf t⟩
          else if t.isCurly then
            .property ⟨attributes, typeText type, name, initialOf more⟩
          else if t.isMark "=>" then .property ⟨attributes, typeText type, name, none⟩
          else .other

/-- What a declaration turns out to be after its attributes and modifiers. -/
inductive Shape where
  | space (name : String) (body : Option (List Tree))
  | typeOf (head : TypeHead) (body : List Tree)
  | single (item : Item)

/-- Words of declarations that are passed over. -/
def otherWords : List String := ["delegate", "event", "using", "extern", "operator", "implicit", "explicit"]

/-- The head of a type declaration whose word is given, from its name on. -/
def typeShape (keyword : String) (modifiers : List String) (ts : List Tree) : Shape :=
  match skipAsides ts with
  | name :: rest =>
    match name.word? with
    | some name =>
      .typeOf ⟨keyword, modifiers, name, baseOf rest⟩ (if keyword = "enum" then [] else (body? rest).getD [])
    | none => .single .other
  | [] => .single .other

def shapeOf (attributes modifiers : List String) (ts : List Tree) : Shape :=
  match ts with
  | [] => .single .other
  | t :: rest =>
    let next := skipAsides rest
    if t.isWord "namespace" then
      .space (trimmedSource (Tree.trimComments (beforeBody rest))) (body? rest)
    else if t.isWord "record" && (next.head?.any fun u => u.isWord "class" || u.isWord "struct") then
      typeShape "record" modifiers (next.drop 1)
    else
      match typeWords.find? fun word => t.isWord word with
      | some word => typeShape word modifiers rest
      | none =>
        let afterRef := next.dropWhile fun u => modifierWords.any u.isWord || u.isAside
        if t.isWord "ref" && (afterRef.head?.any fun u => u.isWord "struct") then
          typeShape "struct" modifiers (afterRef.drop 1)
        else if t.isWord "delegate" && (next.head?.any fun u => u.isMark "*") then
          .single (memberOf attributes modifiers ts)
        else if otherWords.any t.isWord then .single .other
        else .single (memberOf attributes modifiers ts)

/-- Takes attribute lists and modifiers off the front of a declaration, and gives its shape. -/
def declarationShape (attributes modifiers : List String) : List Tree → Shape
  | [] => .single .other
  | t :: ts =>
    if t.isAside then declarationShape attributes modifiers ts
    else if t.isSquare then declarationShape (attributes ++ attributeNames t) modifiers ts
    else
      match modifierWords.find? fun word => t.isWord word with
      | some word => declarationShape attributes (modifiers ++ [word]) ts
      | none => shapeOf attributes modifiers (t :: ts)

/-- The item of a shape, with what `read` finds in its body. -/
def Shape.item (read : List Tree → List Item) : Shape → Item
  | .space name (some body) => .nameSpace name (read body)
  | .space name none => .fileSpace name
  | .typeOf head body => .type head (read body)
  | .single item => item

/-- The items of a body that begins with a declaration, with what `read` finds in that and after it. -/
def declared (read : List Tree → List Item) (ts : List Tree) : List Item :=
  let (declaration, rest) := splitDeclaration false [] ts
  (declarationShape [] [] declaration).item read :: read rest

/-- The items of a body; `fuel` bounds the number of trees at all depths. -/
def itemsFrom : Nat → List Tree → List Item
  | 0, _ => []
  | _ + 1, [] => []
  | fuel + 1, t :: ts =>
    match t with
    | .leaf token =>
      if token.kind = .comment then .comment (String.ofList token.text) :: itemsFrom fuel ts
      else if token.kind = .directive then .other :: itemsFrom fuel ts
      else if token.isMark ";" then itemsFrom fuel ts
      else declared (itemsFrom fuel) (t :: ts)
    | .group opening content _ =>
      if opening.kind = .directive then .conditional (itemsFrom fuel content) :: itemsFrom fuel ts
      else if isGlobalAttribute t then .other :: itemsFrom fuel ts
      else declared (itemsFrom fuel) (t :: ts)

def parse (source : List Char) : List Item :=
  let ts := tokens source
  itemsFrom (2 * ts.length + 2) (trees ts)

end Catalog.CSharp
