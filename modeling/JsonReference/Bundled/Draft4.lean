import JsonReference.Text.Basic

namespace JsonReference.Bundled

def draft4Lines : List String :=
  [
    "\x7b",
    "    \"id\": \"http://json-schema.org/draft-04/schema#\",",
    "    \"$schema\": \"http://json-schema.org/draft-04/schema#\",",
    "    \"description\": \"Core schema meta-schema\",",
    "    \"definitions\": \x7b",
    "        \"schemaArray\": \x7b",
    "            \"type\": \"array\",",
    "            \"minItems\": 1,",
    "            \"items\": \x7b \"$ref\": \"#\" \x7d",
    "        \x7d,",
    "        \"positiveInteger\": \x7b",
    "            \"type\": \"integer\",",
    "            \"minimum\": 0",
    "        \x7d,",
    "        \"positiveIntegerDefault0\": \x7b",
    "            \"allOf\": [ \x7b \"$ref\": \"#/definitions/positiveInteger\" \x7d, \x7b \"default\": 0 \x7d ]",
    "        \x7d,",
    "        \"simpleTypes\": \x7b",
    "            \"enum\": [ \"array\", \"boolean\", \"integer\", \"null\", \"number\", \"object\", \"string\" ]",
    "        \x7d,",
    "        \"stringArray\": \x7b",
    "            \"type\": \"array\",",
    "            \"items\": \x7b \"type\": \"string\" \x7d,",
    "            \"minItems\": 1,",
    "            \"uniqueItems\": true",
    "        \x7d",
    "    \x7d,",
    "    \"type\": \"object\",",
    "    \"properties\": \x7b",
    "        \"id\": \x7b",
    "            \"type\": \"string\"",
    "        \x7d,",
    "        \"$schema\": \x7b",
    "            \"type\": \"string\"",
    "        \x7d,",
    "        \"title\": \x7b",
    "            \"type\": \"string\"",
    "        \x7d,",
    "        \"description\": \x7b",
    "            \"type\": \"string\"",
    "        \x7d,",
    "        \"default\": \x7b\x7d,",
    "        \"multipleOf\": \x7b",
    "            \"type\": \"number\",",
    "            \"minimum\": 0,",
    "            \"exclusiveMinimum\": true",
    "        \x7d,",
    "        \"maximum\": \x7b",
    "            \"type\": \"number\"",
    "        \x7d,",
    "        \"exclusiveMaximum\": \x7b",
    "            \"type\": \"boolean\",",
    "            \"default\": false",
    "        \x7d,",
    "        \"minimum\": \x7b",
    "            \"type\": \"number\"",
    "        \x7d,",
    "        \"exclusiveMinimum\": \x7b",
    "            \"type\": \"boolean\",",
    "            \"default\": false",
    "        \x7d,",
    "        \"maxLength\": \x7b \"$ref\": \"#/definitions/positiveInteger\" \x7d,",
    "        \"minLength\": \x7b \"$ref\": \"#/definitions/positiveIntegerDefault0\" \x7d,",
    "        \"pattern\": \x7b",
    "            \"type\": \"string\",",
    "            \"format\": \"regex\"",
    "        \x7d,",
    "        \"additionalItems\": \x7b",
    "            \"anyOf\": [",
    "                \x7b \"type\": \"boolean\" \x7d,",
    "                \x7b \"$ref\": \"#\" \x7d",
    "            ],",
    "            \"default\": \x7b\x7d",
    "        \x7d,",
    "        \"items\": \x7b",
    "            \"anyOf\": [",
    "                \x7b \"$ref\": \"#\" \x7d,",
    "                \x7b \"$ref\": \"#/definitions/schemaArray\" \x7d",
    "            ],",
    "            \"default\": \x7b\x7d",
    "        \x7d,",
    "        \"maxItems\": \x7b \"$ref\": \"#/definitions/positiveInteger\" \x7d,",
    "        \"minItems\": \x7b \"$ref\": \"#/definitions/positiveIntegerDefault0\" \x7d,",
    "        \"uniqueItems\": \x7b",
    "            \"type\": \"boolean\",",
    "            \"default\": false",
    "        \x7d,",
    "        \"maxProperties\": \x7b \"$ref\": \"#/definitions/positiveInteger\" \x7d,",
    "        \"minProperties\": \x7b \"$ref\": \"#/definitions/positiveIntegerDefault0\" \x7d,",
    "        \"required\": \x7b \"$ref\": \"#/definitions/stringArray\" \x7d,",
    "        \"additionalProperties\": \x7b",
    "            \"anyOf\": [",
    "                \x7b \"type\": \"boolean\" \x7d,",
    "                \x7b \"$ref\": \"#\" \x7d",
    "            ],",
    "            \"default\": \x7b\x7d",
    "        \x7d,",
    "        \"definitions\": \x7b",
    "            \"type\": \"object\",",
    "            \"additionalProperties\": \x7b \"$ref\": \"#\" \x7d,",
    "            \"default\": \x7b\x7d",
    "        \x7d,",
    "        \"properties\": \x7b",
    "            \"type\": \"object\",",
    "            \"additionalProperties\": \x7b \"$ref\": \"#\" \x7d,",
    "            \"default\": \x7b\x7d",
    "        \x7d,",
    "        \"patternProperties\": \x7b",
    "            \"type\": \"object\",",
    "            \"additionalProperties\": \x7b \"$ref\": \"#\" \x7d,",
    "            \"default\": \x7b\x7d",
    "        \x7d,",
    "        \"dependencies\": \x7b",
    "            \"type\": \"object\",",
    "            \"additionalProperties\": \x7b",
    "                \"anyOf\": [",
    "                    \x7b \"$ref\": \"#\" \x7d,",
    "                    \x7b \"$ref\": \"#/definitions/stringArray\" \x7d",
    "                ]",
    "            \x7d",
    "        \x7d,",
    "        \"enum\": \x7b",
    "            \"type\": \"array\",",
    "            \"minItems\": 1,",
    "            \"uniqueItems\": true",
    "        \x7d,",
    "        \"type\": \x7b",
    "            \"anyOf\": [",
    "                \x7b \"$ref\": \"#/definitions/simpleTypes\" \x7d,",
    "                \x7b",
    "                    \"type\": \"array\",",
    "                    \"items\": \x7b \"$ref\": \"#/definitions/simpleTypes\" \x7d,",
    "                    \"minItems\": 1,",
    "                    \"uniqueItems\": true",
    "                \x7d",
    "            ]",
    "        \x7d,",
    "        \"format\": \x7b \"type\": \"string\" \x7d,",
    "        \"allOf\": \x7b \"$ref\": \"#/definitions/schemaArray\" \x7d,",
    "        \"anyOf\": \x7b \"$ref\": \"#/definitions/schemaArray\" \x7d,",
    "        \"oneOf\": \x7b \"$ref\": \"#/definitions/schemaArray\" \x7d,",
    "        \"not\": \x7b \"$ref\": \"#\" \x7d",
    "    \x7d,",
    "    \"dependencies\": \x7b",
    "        \"exclusiveMaximum\": [ \"maximum\" ],",
    "        \"exclusiveMinimum\": [ \"minimum\" ]",
    "    \x7d,",
    "    \"default\": \x7b\x7d",
    "\x7d",
    ""
  ]

def draft4 : Text := Text.join ['\n'] (draft4Lines.map String.toList)

end JsonReference.Bundled
