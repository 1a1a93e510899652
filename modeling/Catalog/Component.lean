/-! What is known about one component of a library, and the pieces it is made of. -/
namespace Catalog

/-- A settable property of a component. -/
structure Parameter where
  name : String
  type : String
  description : Option String := none
  defaultValue : Option String := none
  isRequired : Bool := false
  isCascading : Bool := false
  category : Option String := none
  deriving DecidableEq, Repr, Inhabited

/-- A callback of a component, with the type of what it hands over. -/
structure Event where
  name : String
  argumentType : Option String := none
  description : Option String := none
  deriving DecidableEq, Repr, Inhabited

structure MethodParameter where
  name : String
  type : String
  deriving DecidableEq, Repr, Inhabited

structure Method where
  name : String
  returnType : String
  description : Option String := none
  parameters : List MethodParameter := []
  isAsync : Bool := false
  deriving DecidableEq, Repr, Inhabited

/-- A demonstration of a component: markup, code or both. -/
structure Example where
  name : String
  description : Option String
  markup : Option String
  code : Option String
  sourceFile : String
  features : List String := []
  deriving DecidableEq, Repr, Inhabited

structure Component where
  name : String
  nameSpace : String
  summary : String
  description : Option String := none
  category : Option String := none
  baseType : Option String := none
  parameters : List Parameter := []
  events : List Event := []
  methods : List Method := []
  examples : List Example := []
  related : List String := []
  documentationUrl : Option String := none
  sourceUrl : Option String := none
  deriving DecidableEq, Repr, Inhabited

/-- What a member of a type is. -/
inductive MemberKind where
  | property
  | event
  | method
  | other (label : String)
  deriving DecidableEq, Repr, Inhabited

def MemberKind.label : MemberKind → String
  | .property => "Property"
  | .event => "Event"
  | .method => "Method"
  | .other label => label

def MemberKind.ofLabel (label : String) : MemberKind :=
  if label = "Property" then .property
  else if label = "Event" then .event
  else if label = "Method" then .method
  else .other label

theorem MemberKind.label_ofLabel (label : String) : (ofLabel label).label = label := by
  by_cases hproperty : label = "Property"
  · rw [ofLabel, if_pos hproperty]
    exact hproperty.symm
  by_cases hevent : label = "Event"
  · rw [ofLabel, if_neg hproperty, if_pos hevent]
    exact hevent.symm
  by_cases hmethod : label = "Method"
  · rw [ofLabel, if_neg hproperty, if_neg hevent, if_pos hmethod]
    exact hmethod.symm
  · rw [ofLabel, if_neg hproperty, if_neg hevent, if_neg hmethod]
    rfl

structure Member where
  name : String
  kind : MemberKind
  returnType : String
  description : Option String := none
  signature : Option String := none
  deriving DecidableEq, Repr, Inhabited

/-- The members of a type as one flat list. -/
structure ApiReference where
  typeName : String
  nameSpace : String
  summary : Option String := none
  baseType : Option String := none
  members : List Member := []
  deriving DecidableEq, Repr, Inhabited

/-- What the source file of a component tells about it. -/
structure SourceFacts where
  className : String
  filePath : String
  nameSpace : Option String := none
  summary : Option String := none
  remarks : Option String := none
  baseType : Option String := none
  parameters : List Parameter := []
  events : List Event := []
  methods : List Method := []
  deriving DecidableEq, Repr, Inhabited

/-- A titled part of a documentation page. -/
structure Section where
  title : String
  content : Option String := none
  hasExample : Bool := false
  deriving DecidableEq, Repr, Inhabited

/-- What the documentation page of a component tells about it. -/
structure PageFacts where
  filePath : String
  componentName : Option String := none
  title : Option String := none
  description : Option String := none
  sections : List Section := []
  related : List String := []
  usageNotes : List String := []
  deriving DecidableEq, Repr, Inhabited

end Catalog
