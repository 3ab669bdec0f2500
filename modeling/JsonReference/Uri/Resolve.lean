import JsonReference.Uri

namespace JsonReference.Uri

/-- The path of the base up to its last slash, followed by a relative path. -/
def merge (base : Uri) (relative : Text) : Text :=
  if base.authority.isSome && base.path.isEmpty then '/' :: relative
  else
    match Text.cutLast? '/' base.path with
    | some (directory, _) => directory ++ relative
    | none => relative

def resolve (base reference : Uri) : Uri :=
  if reference.scheme.isSome then { reference with path := removeDotSegments reference.path }
  else
    let (authority, path, query) :=
      if reference.authority.isSome then
        (reference.authority, removeDotSegments reference.path, reference.query)
      else if reference.path.isEmpty then
        (base.authority, base.path, reference.query.or base.query)
      else if isRooted reference.path then
        (base.authority, removeDotSegments reference.path, reference.query)
      else (base.authority, removeDotSegments (base.merge reference.path), reference.query)
    ⟨base.scheme, authority, path, query, reference.fragment⟩

end JsonReference.Uri
