import DuplicateLogic.Syntax.Token
import DuplicateLogic.Syntax.Construct

/-! # Syntax kinds

A kind is one of the named forms or an unknown tag that keeps its spelling. Reading a tag and
writing it back gives the same text, so two unknown tags are equal only when they are spelled
alike. -/

namespace DuplicateLogic

/-- The form of a syntax node. -/
inductive Kind where
  | lexeme (form : Lexeme)
  | punctuation (form : Punctuation)
  | operator (form : Operator)
  | keyword (form : Keyword)
  | value (form : ValueKeyword)
  | construct (form : Construct)
  | other (tag : String)
  deriving DecidableEq, Repr

namespace Kind

/-- The tag of the kind in a tree file. -/
def tag : Kind → String
  | lexeme form => form.tag
  | punctuation form => form.tag
  | operator form => form.tag
  | keyword form => form.tag
  | value form => form.tag
  | construct form => form.tag
  | other tag => tag

/-- Every named kind once. -/
def named : List Kind :=
  Lexeme.all.map lexeme ++ Punctuation.all.map punctuation ++ Operator.all.map operator ++
    Keyword.all.map keyword ++ ValueKeyword.all.map value ++ Construct.all.map construct

/-- Whether the kind has a name of its own. -/
def isNamed : Kind → Bool
  | other _ => false
  | _ => true

/-- The named kind with this tag. -/
def named? (tag : String) : Option Kind :=
  named.find? fun kind => kind.tag == tag

/-- The named kind with this tag, or the tag itself when no kind has it. -/
def ofTag (tag : String) : Kind :=
  (named? tag).getD (other tag)

/-- Two leaves of such a kind are the same code only when they are spelled alike; every other
leaf is described by its kind alone. -/
def isTextSignificant : Kind → Bool
  | lexeme _ => true
  | other _ => true
  | _ => false

/-- Punctuation, operators and structural keywords never fill an operand slot. -/
def isSyntaxToken : Kind → Bool
  | punctuation _ => true
  | operator _ => true
  | keyword _ => true
  | _ => false

/-- The fixed spelling of kinds that are only ever spelled one way. -/
def spelling? : Kind → Option String
  | punctuation form => some form.spelling
  | operator form => some form.spelling
  | keyword form => some form.spelling
  | value form => some form.spelling
  | _ => none

theorem mem_named_iff (kind : Kind) : kind ∈ named ↔ kind.isNamed = true := by
  cases kind <;>
    simp [named, isNamed, Lexeme.mem_all, Punctuation.mem_all, Operator.mem_all,
      Keyword.mem_all, ValueKeyword.mem_all, Construct.mem_all]

theorem tag_of_named? {tag : String} {kind : Kind} (found : named? tag = some kind) :
    kind.tag = tag := by
  simpa using List.find?_some found

/-- Reading a tag and writing it back gives the tag. -/
theorem tag_ofTag (tag : String) : (ofTag tag).tag = tag := by
  unfold ofTag
  cases found : named? tag with
  | none => rfl
  | some kind => exact tag_of_named? found

/-- Two tags name the same kind only when they are the same text. -/
theorem ofTag_inj {first second : String} : ofTag first = ofTag second ↔ first = second := by
  constructor
  · intro same
    have := congrArg tag same
    rwa [tag_ofTag, tag_ofTag] at this
  · exact congrArg ofTag

end Kind

end DuplicateLogic
