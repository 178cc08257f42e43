import LineCensus.Language

/-!
# `Language.Builtin` — the languages known without a definitions file
-/

namespace LineCensus.Language

open Construct (doubleQuoted singleQuoted)

/-- A language with `//` and `/* */` comments and `"` strings, then the constructs given. -/
def slashFamily (name : String) (extensions : List String) (more : List Construct) : Language :=
  .define name extensions
    (.lineComment ['/', '/'] :: .blockComment ['/', '*'] ['*', '/'] :: doubleQuoted :: more)

/-- A language with `#` comments and `"` and `'` strings, then the constructs given. -/
def hashFamily (name : String) (extensions : List String) (more : List Construct) : Language :=
  .define name extensions (.lineComment ['#'] :: doubleQuoted :: singleQuoted :: more)

/-- The built-in languages. In Rust an apostrophe may begin a lifetime, so only character literals
of a quote are strings there. -/
def builtins : List Language := [
    slashFamily "C" ["c", "h"] [.singleQuoted],
    slashFamily "C++" ["cpp", "cc", "cxx", "c++", "hpp", "hh", "hxx", "h++"] [.singleQuoted],
    slashFamily "C#" ["cs"] [.singleQuoted],
    slashFamily "Java" ["java"] [.singleQuoted],
    slashFamily "Kotlin" ["kt", "kts"] [],
    slashFamily "Scala" ["scala", "sc"] [],
    slashFamily "Swift" ["swift"] [],
    slashFamily "Dart" ["dart"] [.singleQuoted],
    slashFamily "Objective-C" ["m", "mm"] [],
    slashFamily "Groovy" ["groovy", "gradle"] [.singleQuoted],
    slashFamily "Zig" ["zig"] [],
    slashFamily "Protobuf" ["proto"] [],
    slashFamily "Solidity" ["sol"] [.singleQuoted],
    slashFamily "Rust" ["rs"]
      [.string ['\'', '"'] ['\''] none, .string ['\'', '\\', '"'] ['\''] none],
    slashFamily "Go" ["go"] [.string ['\x60'] ['\x60'] none],
    slashFamily "JavaScript" ["js", "jsx", "mjs", "cjs"]
      [.singleQuoted, .string ['\x60'] ['\x60'] (some '\\')],
    slashFamily "TypeScript" ["ts", "tsx", "mts", "cts"]
      [.singleQuoted, .string ['\x60'] ['\x60'] (some '\\')],
    slashFamily "JSON with Comments" ["jsonc"] [],
    .define "CSS" ["css"] [.blockComment ['/', '*'] ['*', '/'], .doubleQuoted, .singleQuoted],
    slashFamily "SCSS" ["scss", "less"] [.singleQuoted],
    slashFamily "PHP" ["php"] [.lineComment ['#'], .singleQuoted],
    hashFamily "Python" ["py", "pyw", "pyi"]
      [.string ['"', '"', '"'] ['"', '"', '"'] (some '\\'),
       .string ['\'', '\'', '\''] ['\'', '\'', '\''] (some '\\')],
    hashFamily "Shell" ["sh", "bash", "zsh", "fish"] [],
    hashFamily "Ruby" ["rb", "rake", "gemspec"] [],
    hashFamily "Perl" ["pl", "pm"] [],
    hashFamily "R" ["r"] [],
    hashFamily "Elixir" ["ex", "exs"] [],
    hashFamily "Nim" ["nim"] [],
    hashFamily "YAML" ["yml", "yaml"] [],
    hashFamily "TOML" ["toml"] [],
    hashFamily "CMake" ["cmake"] [],
    hashFamily "Terraform" ["tf", "tfvars"] [],
    .define "PowerShell" ["ps1", "psm1", "psd1"]
      [.lineComment ['#'],
       .blockComment ['<', '#'] ['#', '>'],
       .string ['"'] ['"'] (some '\x60'),
       .string ['\''] ['\''] none],
    .define "Lua" ["lua"]
      [.blockComment ['-', '-', '[', '['] [']', ']'],
       .lineComment ['-', '-'],
       .doubleQuoted,
       .singleQuoted],
    .define "SQL" ["sql"]
      [.lineComment ['-', '-'], .blockComment ['/', '*'] ['*', '/'], .string ['\''] ['\''] none],
    .define "Haskell" ["hs", "elm", "purs"]
      [.blockComment ['{', '-'] ['-', '}'], .lineComment ['-', '-'], .doubleQuoted],
    .define "HTML" ["html", "htm", "xhtml", "vue"]
      [.blockComment ['<', '!', '-', '-'] ['-', '-', '>']],
    .define "XML" ["xml", "xsd", "xsl", "xslt", "svg"]
      [.blockComment ['<', '!', '-', '-'] ['-', '-', '>']],
    .define "Markdown" ["md", "markdown"] [.blockComment ['<', '!', '-', '-'] ['-', '-', '>']],
    .define "Lisp" ["lisp", "el", "clj", "cljs", "scm", "rkt"]
      [.lineComment [';'], .doubleQuoted],
    .define "Erlang" ["erl", "hrl"] [.lineComment ['%'], .doubleQuoted],
    .define "TeX" ["tex", "sty", "cls"] [.lineComment ['%']],
    .define "Visual Basic" ["vb", "vbs", "bas"] [.lineComment ['\''], .string ['"'] ['"'] none],
    .define "INI" ["ini", "cfg"] [.lineComment [';']],
    .define "Text" ["txt"] []]

end LineCensus.Language
