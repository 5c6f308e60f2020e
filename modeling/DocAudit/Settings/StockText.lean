/-!
# The stock settings as a file

A file to start from: it says what the stock settings say, with an explanation of every key.
-/

namespace DocAudit.Settings

/-- The lines of the file. -/
def stockLines : List String :=
  ["# apidocs-check configuration",
   "# ===========================",
   "# All settings are optional. Remove or comment out any you don't need.",
   "# Values shown below are the defaults.",
   "#",
   "# Tables merge key-by-key with the defaults; arrays replace the default",
   "# array entirely. Unknown keys will cause an error.",
   "",
   "# Namespace that qualifies bare type names (\"driveItem\" -> \"ns.driveItem\")",
   "# and is used for pages that neither declare nor imply a namespace.",
   "# default_namespace = \"microsoft.graph\"",
   "",
   "# Type names that keep their capitalization when normalized.",
   "type_name_exclusions = []",
   "",
   "# Paragraphs starting with these prefixes are never used as a description.",
   "description_boilerplate_prefixes = [\"Namespace:\", \"[!INCLUDE\"]",
   "",
   "# ---------------------------------------------------------------------------",
   "# Tables",
   "# ---------------------------------------------------------------------------",
   "[tables]",
   "# The nearest heading above a table is matched (case-insensitive substring,",
   "# or the whole heading with exact = true) against these rules in order. The",
   "# first match decides the table kind.",
   "# Kinds: error-codes, path-parameters, query-parameters, headers,",
   "# response-headers, request-body, properties, navigation-properties,",
   "# auth-scopes, enum-values.",
   "headers = [",
   "    \x7b match = \"Path parameters\", kind = \"path-parameters\" \x7d,",
   "    \x7b match = \"Query parameters\", kind = \"query-parameters\" \x7d,",
   "    \x7b match = \"Request headers\", kind = \"headers\" \x7d,",
   "    \x7b match = \"Response headers\", kind = \"response-headers\" \x7d,",
   "    \x7b match = \"Request body\", kind = \"request-body\" \x7d,",
   "    \x7b match = \"Relationships\", kind = \"navigation-properties\" \x7d,",
   "    \x7b match = \"Properties\", kind = \"properties\" \x7d,",
   "    \x7b match = \"Error\", kind = \"error-codes\" \x7d,",
   "    \x7b match = \"Permissions\", kind = \"auth-scopes\" \x7d,",
   "    \x7b match = \"Enum values\", kind = \"enum-values\" \x7d,",
   "    \x7b match = \"Values\", kind = \"enum-values\", exact = true \x7d,",
   "]",
   "",
   "# Column header synonyms per logical field, tried in order.",
   "[tables.columns]",
   "name = [\"Parameter Name\", \"Property Name\", \"Name\", \"Parameter\", \"Property\"]",
   "type = [\"Type\", \"Data Type\"]",
   "description = [\"Description\", \"Notes\"]",
   "required = [\"Required\"]",
   "error_code = [\"Error Code\", \"Code\", \"Error\"]",
   "http_status = [\"HTTP Status\", \"HTTP Status Code\", \"Status Code\"]",
   "scope = [\"Scope\", \"Scope Name\", \"Permission\"]",
   "scope_title = [\"Title\", \"Display Name\"]",
   "member = [\"Member\", \"Enum Value\"]",
   "value = [\"Value\"]",
   "header = [\"Header\", \"Header Name\"]",
   "",
   "# ---------------------------------------------------------------------------",
   "# Outlines",
   "# ---------------------------------------------------------------------------",
   "# Expected heading structure per page type. Titles may use \"*\" wildcards.",
   "# Entries are either headers (level, title, required, allow_multiple,",
   "# children) or condition groups (condition = \"and\" | \"or\", arguments).",
   "",
   "[[outlines.resource]]",
   "level = 1",
   "title = \"* resource type\"",
   "required = true",
   "allow_multiple = false",
   "",
   "[[outlines.resource.children]]",
   "level = 2",
   "title = \"Methods\"",
   "required = false",
   "allow_multiple = false",
   "children = []",
   "",
   "[[outlines.resource.children]]",
   "level = 2",
   "title = \"Properties\"",
   "required = true",
   "allow_multiple = false",
   "children = []",
   "",
   "[[outlines.resource.children]]",
   "level = 2",
   "title = \"Relationships\"",
   "required = false",
   "allow_multiple = false",
   "children = []",
   "",
   "[[outlines.resource.children]]",
   "level = 2",
   "title = \"JSON representation\"",
   "required = true",
   "allow_multiple = false",
   "children = []",
   "",
   "[[outlines.api]]",
   "level = 1",
   "title = \"*\"",
   "required = true",
   "allow_multiple = false",
   "",
   "[[outlines.api.children]]",
   "level = 2",
   "title = \"Permissions\"",
   "required = false",
   "allow_multiple = false",
   "children = []",
   "",
   "[[outlines.api.children]]",
   "level = 2",
   "title = \"HTTP request\"",
   "required = true",
   "allow_multiple = false",
   "children = []",
   "",
   "[[outlines.api.children]]",
   "level = 2",
   "title = \"Optional query parameters\"",
   "required = false",
   "allow_multiple = false",
   "children = []",
   "",
   "[[outlines.api.children]]",
   "level = 2",
   "title = \"Request headers\"",
   "required = true",
   "allow_multiple = false",
   "children = []",
   "",
   "[[outlines.api.children]]",
   "level = 2",
   "title = \"Request body\"",
   "required = true",
   "allow_multiple = false",
   "children = []",
   "",
   "[[outlines.api.children]]",
   "level = 2",
   "title = \"Response\"",
   "required = true",
   "allow_multiple = false",
   "children = []",
   "",
   "[[outlines.api.children]]",
   "condition = \"or\"",
   "",
   "[[outlines.api.children.arguments]]",
   "level = 2",
   "title = \"Examples\"",
   "required = true",
   "allow_multiple = false",
   "children = [",
   "    \x7b level = 3, title = \"Request\", required = true, "
     ++ "allow_multiple = false, children = [] \x7d,",
   "    \x7b level = 3, title = \"Response\", required = true, "
     ++ "allow_multiple = false, children = [] \x7d,",
   "]",
   "",
   "[[outlines.api.children.arguments]]",
   "level = 2",
   "title = \"Example\"",
   "required = true",
   "allow_multiple = false",
   "children = [",
   "    \x7b level = 3, title = \"Request\", required = true, "
     ++ "allow_multiple = false, children = [] \x7d,",
   "    \x7b level = 3, title = \"Response\", required = true, "
     ++ "allow_multiple = false, children = [] \x7d,",
   "]",
   "",
   "# ---------------------------------------------------------------------------",
   "# Links",
   "# ---------------------------------------------------------------------------",
   "[links]",
   "# Warn about every external (http/https) link, which is never validated.",
   "warn_on_external = false",
   "",
   "# Entry pages that are never reported as orphaned.",
   "toc_roots = [\"index.md\", \"README.md\"]",
   "",
   "# ---------------------------------------------------------------------------",
   "# Processing",
   "# ---------------------------------------------------------------------------",
   "[processing]",
   "# Maximum number of parallel document workers. Omit for auto (= CPU cores).",
   "# max_processes = 4"]

/-- The text of the file. -/
def stockText : String :=
  String.join (stockLines.map (· ++ "\n"))

end DocAudit.Settings
