import JsonReference.Text.Basic

namespace JsonReference.Bundled

def draft3Lines : List String :=
  [
    "\x7b",
    "    \"$schema\": \"http://json-schema.org/draft-03/schema#\",",
    "    \"id\": \"http://json-schema.org/draft-03/schema#\",",
    "    \"type\": \"object\",",
    "",
    "    \"properties\": \x7b",
    "        \"type\": \x7b",
    "            \"type\": [ \"string\", \"array\" ],",
    "            \"items\": \x7b",
    "                \"type\": [ \"string\", \x7b \"$ref\": \"#\" \x7d ]",
    "            \x7d,",
    "            \"uniqueItems\": true,",
    "            \"default\": \"any\"",
    "        \x7d,",
    "",
    "        \"properties\": \x7b",
    "            \"type\": \"object\",",
    "            \"additionalProperties\": \x7b \"$ref\": \"#\", \"type\": \"object\" \x7d,",
    "            \"default\": \x7b\x7d",
    "        \x7d,",
    "",
    "        \"patternProperties\": \x7b",
    "            \"type\": \"object\",",
    "            \"additionalProperties\": \x7b \"$ref\": \"#\" \x7d,",
    "            \"default\": \x7b\x7d",
    "        \x7d,",
    "",
    "        \"additionalProperties\": \x7b",
    "            \"type\": [ \x7b \"$ref\": \"#\" \x7d, \"boolean\" ],",
    "            \"default\": \x7b\x7d",
    "        \x7d,",
    "",
    "        \"items\": \x7b",
    "            \"type\": [ \x7b \"$ref\": \"#\" \x7d, \"array\" ],",
    "            \"items\": \x7b \"$ref\": \"#\" \x7d,",
    "            \"default\": \x7b\x7d",
    "        \x7d,",
    "",
    "        \"additionalItems\": \x7b",
    "            \"type\": [ \x7b \"$ref\": \"#\" \x7d, \"boolean\" ],",
    "            \"default\": \x7b\x7d",
    "        \x7d,",
    "",
    "        \"required\": \x7b",
    "            \"type\": \"boolean\",",
    "            \"default\": false",
    "        \x7d,",
    "",
    "        \"dependencies\": \x7b",
    "            \"type\": \"object\",",
    "            \"additionalProperties\": \x7b",
    "                \"type\": [ \"string\", \"array\", \x7b \"$ref\": \"#\" \x7d ],",
    "                \"items\": \x7b",
    "                    \"type\": \"string\"",
    "                \x7d",
    "            \x7d,",
    "            \"default\": \x7b\x7d",
    "        \x7d,",
    "",
    "        \"minimum\": \x7b",
    "            \"type\": \"number\"",
    "        \x7d,",
    "",
    "        \"maximum\": \x7b",
    "            \"type\": \"number\"",
    "        \x7d,",
    "",
    "        \"exclusiveMinimum\": \x7b",
    "            \"type\": \"boolean\",",
    "            \"default\": false",
    "        \x7d,",
    "",
    "        \"exclusiveMaximum\": \x7b",
    "            \"type\": \"boolean\",",
    "            \"default\": false",
    "        \x7d,",
    "",
    "        \"minItems\": \x7b",
    "            \"type\": \"integer\",",
    "            \"minimum\": 0,",
    "            \"default\": 0",
    "        \x7d,",
    "",
    "        \"maxItems\": \x7b",
    "            \"type\": \"integer\",",
    "            \"minimum\": 0",
    "        \x7d,",
    "",
    "        \"uniqueItems\": \x7b",
    "            \"type\": \"boolean\",",
    "            \"default\": false",
    "        \x7d,",
    "",
    "        \"pattern\": \x7b",
    "            \"type\": \"string\",",
    "            \"format\": \"regex\"",
    "        \x7d,",
    "",
    "        \"minLength\": \x7b",
    "            \"type\": \"integer\",",
    "            \"minimum\": 0,",
    "            \"default\": 0",
    "        \x7d,",
    "",
    "        \"maxLength\": \x7b",
    "            \"type\": \"integer\"",
    "        \x7d,",
    "",
    "        \"enum\": \x7b",
    "            \"type\": \"array\",",
    "            \"minItems\": 1,",
    "            \"uniqueItems\": true",
    "        \x7d,",
    "",
    "        \"default\": \x7b",
    "            \"type\": \"any\"",
    "        \x7d,",
    "",
    "        \"title\": \x7b",
    "            \"type\": \"string\"",
    "        \x7d,",
    "",
    "        \"description\": \x7b",
    "            \"type\": \"string\"",
    "        \x7d,",
    "",
    "        \"format\": \x7b",
    "            \"type\": \"string\"",
    "        \x7d,",
    "",
    "        \"divisibleBy\": \x7b",
    "            \"type\": \"number\",",
    "            \"minimum\": 0,",
    "            \"exclusiveMinimum\": true,",
    "            \"default\": 1",
    "        \x7d,",
    "",
    "        \"disallow\": \x7b",
    "            \"type\": [ \"string\", \"array\" ],",
    "            \"items\": \x7b",
    "                \"type\": [ \"string\", \x7b \"$ref\": \"#\" \x7d ]",
    "            \x7d,",
    "            \"uniqueItems\": true",
    "        \x7d,",
    "",
    "        \"extends\": \x7b",
    "            \"type\": [ \x7b \"$ref\": \"#\" \x7d, \"array\" ],",
    "            \"items\": \x7b \"$ref\": \"#\" \x7d,",
    "            \"default\": \x7b\x7d",
    "        \x7d,",
    "",
    "        \"id\": \x7b",
    "            \"type\": \"string\"",
    "        \x7d,",
    "",
    "        \"$ref\": \x7b",
    "            \"type\": \"string\"",
    "        \x7d,",
    "",
    "        \"$schema\": \x7b",
    "            \"type\": \"string\",",
    "            \"format\": \"uri\"",
    "        \x7d",
    "    \x7d,",
    "",
    "    \"dependencies\": \x7b",
    "        \"exclusiveMinimum\": \"minimum\",",
    "        \"exclusiveMaximum\": \"maximum\"",
    "    \x7d,",
    "",
    "    \"default\": \x7b\x7d",
    "\x7d",
    ""
  ]

def draft3 : Text := Text.join ['\n'] (draft3Lines.map String.toList)

end JsonReference.Bundled
