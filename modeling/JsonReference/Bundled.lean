import JsonReference.Bundled.Draft3
import JsonReference.Bundled.Draft4

namespace JsonReference

structure BundledSchema where
  id : Text
  path : Text
  text : Text

namespace BundledSchema

def uri (schema : BundledSchema) : Text := "resource:".toList ++ schema.path

def all : List BundledSchema :=
  [⟨"http://json-schema.org/draft-03/schema#".toList, "/draftv3/schema".toList, Bundled.draft3⟩,
   ⟨"http://json-schema.org/draft-04/schema#".toList, "/draftv4/schema".toList, Bundled.draft4⟩]

end BundledSchema
end JsonReference
