import RBinding.Text.Quoted

/-!
# RBinding.Options.Issue

What can be wrong with an option: the place, which is the option and for a table of tags possibly
the tag, and the kind of issue with its code and message.
-/

namespace RBinding
namespace Options

inductive IssueKind where
  | notText
  | emptyText
  | notCallable
  | notTable
  | unreadableBoolean
  | notBoolean
  | notSyntactic (name : String)
  | badTag (tag : String)
  | readOnly
  deriving DecidableEq, Repr

namespace IssueKind

def code : IssueKind → String
  | .notText => "string_type"
  | .emptyText => "string_too_short"
  | .notCallable => "callable_type"
  | .notTable => "dict_type"
  | .unreadableBoolean => "bool_parsing"
  | .notBoolean => "bool_type"
  | .notSyntactic _ => "value_error"
  | .badTag _ => "value_error"
  | .readOnly => "frozen_instance"

def message : IssueKind → String
  | .notText => "Input should be a valid string"
  | .emptyText => "String should have at least 1 character"
  | .notCallable => "Input should be callable"
  | .notTable => "Input should be a valid dictionary"
  | .unreadableBoolean => "Input should be a valid boolean, unable to interpret input"
  | .notBoolean => "Input should be a valid boolean"
  | .notSyntactic name => "Value error, " ++ Text.quoted name ++ " is not a syntactic R name"
  | .badTag tag => "Value error, invalid roxygen tag " ++ Text.quoted tag
  | .readOnly => "Instance is frozen"

end IssueKind

inductive Step where
  | name (s : String)
  | number (n : Int)
  deriving DecidableEq, Repr

structure Issue where
  place : List Step
  kind : IssueKind
  deriving DecidableEq, Repr

/-- Options do not change once they are built, so an assignment is an issue, whether or not there is
an option of this name. Only names that start with an underscore are left to the caller. -/
def assignmentIssue? (name : String) : Option Issue :=
  if name.toList.head? = some '_' then none else some ⟨[.name name], .readOnly⟩

end Options
end RBinding
