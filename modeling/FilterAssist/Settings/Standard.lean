import FilterAssist.Text.Basic

set_option autoImplicit false

/-!
The standard settings, which every layer is laid over, as TOML text.
-/
namespace FilterAssist

def standardPieces : List String :=
  ["# Built-in configuration for the CSDL ", "editor tooling.\n",
   "#\n",
   "# User files passed to the loader are ", "layered over these values, so only the\n",
   "# keys that differ need to be repeated ", "there. Lists replace the defaults as a\n",
   "# whole.\n",
   "\n", "[vocabulary]\n",
   "# No geo operators: pylon filters have ", "none. Add \"geo_box\", \"geo_radius\" or\n",
   "# \"geo_polygon\" here to enable the geo ", "smart fields.\n",
   "operators = [\n",
   "  \"cs\",\n", "  \"contains\",\n", "  \"contains_any\",\n", "  \"any\",\n",
   "  \"substr\",\n", "  \"contains_near\",\n", "  \"near\",\n", "  \"exists\",\n",
   "  \"in\",\n", "  \"url_in\",\n", "  \"==\",\n", "  \"!=\",\n", "  \">\",\n",
   "  \">=\",\n", "  \"<\",\n", "  \"<=\",\n", "  \"regex_partial\",\n",
   "  \"regex_exact\",\n", "  \"pcre\",\n", "  \"contains_phrase\",\n", "  \"all\",\n",
   "  \"contains_all\",\n", "  \"wild\",\n", "  \"wildcard\",\n", "  \"list_in\",\n",
   "  \"list_any\",\n",
   "]\n",
   "logical = [\"and\", \"or\"]\n",
   "unary = [\"not\"]\n",
   "keywords = [\"stream\", \"tag\", \"tags\", ", "\"return\"]\n",
   "punctuation_control = ", "[\"[keep(default)]\", \"[keep(classic)]\", ", "\"[keep(extended)]\"]\n",
   "targets = [\n",
   "  \"fb.author.age\",\n", "  \"fb.author.country\",\n", "  \"fb.author.country_code\",\n",
   "  \"fb.author.gender\",\n", "  \"fb.author.highest_education\",\n",
   "  \"fb.author.region\",\n", "  \"fb.author.country_region\",\n",
   "  \"fb.author.relationship_status\",\n", "  \"fb.author.type\",\n",
   "  \"fb.language\",\n", "  \"fb.link\",\n", "  \"fb.og_action_type\",\n",
   "  \"fb.og_action_type_id\",\n", "  \"fb.og_object\",\n", "  \"fb.og_object_id\",\n",
   "  \"fb.parent.author.age\",\n", "  \"fb.parent.author.country\",\n",
   "  \"fb.parent.author.country_code\",\n", "  \"fb.parent.author.gender\",\n",
   "  \"fb.parent.author.highest_education\",\n", "  \"fb.parent.author.region\",\n",
   "  \"fb.parent.author.country_region\",\n", "  ", "\"fb.parent.author.relationship_status\",\n",
   "  \"fb.parent.author.type\",\n", "  \"fb.parent.hashtags\",\n",
   "  \"fb.parent.language\",\n", "  \"fb.parent.link\",\n", "  \"fb.parent.media_type\",\n",
   "  \"fb.parent.og_action_type\",\n", "  \"fb.parent.og_action_type_id\",\n",
   "  \"fb.parent.og_object\",\n", "  \"fb.parent.og_object_id\",\n",
   "  \"fb.parent.topic_ids\",\n", "  \"fb.parent.topics.category\",\n",
   "  \"fb.parent.topics.name\",\n", "  \"fb.topic_ids\",\n", "  \"fb.topics.category\",\n",
   "  \"fb.topics.name\",\n", "  \"fb.topics.category_name\",\n",
   "  \"fb.parent.topics.category_name\",\n", "  \"fb.sentiment\",\n",
   "  \"fb.parent.sentiment\",\n", "  \"interaction.hashtags\",\n",
   "  \"interaction.media_type\",\n", "  \"interaction.ml.categories\",\n",
   "  \"interaction.subtype\",\n", "  \"interaction.tags\",\n", "  \"links.code\",\n",
   "  \"links.domain\",\n", "  \"links.normalized_url\",\n", "  \"links.url\",\n",
   "]\n",
   "\n", "[folding]\n",
   "# strings longer than this many ", "characters get a fold marker\n",
   "foldable_length = 20\n",
   "# characters kept visible in the ", "placeholder of a folded string\n",
   "folded_length = 5\n",
   "fold_on_load = false\n",
   "\n", "[editor]\n",
   "indent_unit = 2\n",
   "tab_size = 4\n",
   "# indent continuation lines to the ", "column after an opening bracket\n",
   "align_brackets = false\n",
   "\n", "[help]\n",
   "url_template = ", "\"http://dev.datasift.com/", "tooltip-endpoint/tooltip/retrieve?", "id=\x7btarget\x7d\"\n"]

def standardToml : Text :=
  standardPieces.flatMap String.toList

end FilterAssist
