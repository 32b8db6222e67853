/-
**The entry file of a new project.**

Main definitions:

* `EntryTemplates.Language`, `EntryTemplates.OutputKind` — what a project is written in, and what
  it produces;
* `EntryTemplates.Language.mainFile` — the text of a first program;
* `EntryTemplates.entryFileName` — the name of the entry file.
-/

import EntryTemplates.Text.Lines
import EntryTemplates.Vocabulary

set_option relaxedAutoImplicit false
set_option autoImplicit false

namespace EntryTemplates

/-- The language of an entry file. -/
inductive Language where
  | c
  | cpp
  deriving DecidableEq, Repr

/-- What a project produces. -/
inductive OutputKind where
  | executable
  | library
  deriving DecidableEq, Repr

instance : Vocabulary Language where
  all := [.c, .cpp]
  name
    | .c => "c"
    | .cpp => "cpp"
  title := "MainFileLanguage"

instance : Vocabulary OutputKind where
  all := [.executable, .library]
  name
    | .executable => "executable"
    | .library => "library"
  title := "ProjectOutputType"

/-- The text of a first program. -/
def Language.mainFile : Language → String
  | .c =>
      Text.ofLines [
        "#include <stdio.h>",
        "",
        "int main(int argc, const char** argv) \x7b",
        "\tprintf(\"Hello World!\");",
        "\treturn 0;",
        "\x7d"
      ]
  | .cpp =>
      Text.ofLines [
        "#include <cstdlib>",
        "#include <iostream>",
        "",
        "int main(int argc, const char** argv) \x7b",
        "\tstd::cout << \"Hello World\" << std::endl;",
        "\treturn EXIT_SUCCESS;",
        "\x7d"
      ]

/-- The name that a language goes by: its own, where `c++` stands for `cpp`. -/
def Language.alias (s : String) : String := if s = "c++" then "cpp" else s

/-- The ending of an entry file: of a source file for an executable, of a header for a library. -/
def entryExtension : Language → OutputKind → String
  | .c, .executable => "c"
  | .cpp, .executable => "cpp"
  | .c, .library => "h"
  | .cpp, .library => "hpp"

/-- **The name of the entry file**: `main` for an executable, the project's name for a library,
which must have one. -/
def entryFileName (project : Option String) (language : Language) (kind : OutputKind) :
    Option String :=
  let stem := match kind with
    | .executable => some "main"
    | .library => project
  stem.map fun s => s ++ "." ++ entryExtension language kind

end EntryTemplates
