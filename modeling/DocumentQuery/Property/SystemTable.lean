import DocumentQuery.Property.Basic
import DocumentQuery.Rejection

/-!
Properties that the repository keeps for every document. Some have a second name in queries; those
about access, place and full text are known but have no predicate.
-/

namespace DocumentQuery

structure SystemProperty where
  key : String
  declared : KnownType
  deriving DecidableEq, Repr

namespace SystemProperty

def mark : String := "ecm:"

def mixinKey : String := "ecm:mixinTypes"

def untyped (key : String) : SystemProperty := ⟨key, .unresolved⟩

def typed (key : String) (type : ScalarType) : SystemProperty := ⟨key, .scalar type⟩

def table : List (String × SystemProperty) :=
  [("ecm:uuid", untyped "ecm:id"),
   ("ecm:id", untyped "ecm:id"),
   ("ecm:parentId", untyped "ecm:parentId"),
   ("ecm:name", untyped "ecm:name"),
   ("ecm:pos", typed "ecm:pos" .integer),
   ("ecm:primaryType", untyped "ecm:primaryType"),
   ("ecm:mixinType", untyped mixinKey),
   ("ecm:mixinTypes", untyped mixinKey),
   ("ecm:currentLifeCycleState", untyped "ecm:lifeCycleState"),
   ("ecm:lifeCycleState", untyped "ecm:lifeCycleState"),
   ("ecm:lifeCyclePolicy", untyped "ecm:lifeCyclePolicy"),
   ("ecm:isProxy", typed "ecm:isProxy" .boolean),
   ("ecm:isVersion", typed "ecm:isVersion" .boolean),
   ("ecm:isCheckedIn", typed "ecm:isCheckedIn" .boolean),
   ("ecm:isLatestVersion", typed "ecm:isLatestVersion" .boolean),
   ("ecm:isLatestMajorVersion", typed "ecm:isLatestMajorVersion" .boolean),
   ("ecm:versionLabel", untyped "ecm:versionLabel"),
   ("ecm:versionDescription", untyped "ecm:versionDescription"),
   ("ecm:versionVersionableId", untyped "ecm:versionVersionableId"),
   ("ecm:proxyTargetId", untyped "ecm:proxyTargetId"),
   ("ecm:proxyVersionableId", untyped "ecm:proxyVersionableId"),
   ("ecm:lockOwner", untyped "ecm:lockOwner"),
   ("ecm:lockCreated", typed "ecm:lockCreated" .date),
   ("ecm:ancestorId", untyped "ecm:ancestorIds"),
   ("ecm:ancestorIds", untyped "ecm:ancestorIds"),
   ("ecm:fulltextJobId", untyped "ecm:fulltextJobId")]

/-- Whether a name that is not in the table stands for something without a predicate. -/
def hasNoPredicate (name : String) : Bool :=
  name = "ecm:acl" || name = "ecm:path" || "ecm:acl/".toList.isPrefixOf name.toList
    || "ecm:fulltext".toList.isPrefixOf name.toList

def lookup (name : String) : Except Rejection SystemProperty :=
  match table.lookup name with
  | some property => .ok property
  | none =>
      if hasNoPredicate name then .error (.unsupported (.systemProperty name))
      else .error (.unknownProperty name)

end SystemProperty

end DocumentQuery
