/-
**The commands.**

Main definitions:

* `EntryTemplates.CommandLine.Command` — what can be asked for;
* `EntryTemplates.CommandLine.CommandName` — the names of commands;
* `EntryTemplates.CommandLine.CommandName.read` — the command that words after a name mean;
* `EntryTemplates.CommandLine.helpText` — how the program is used.
-/

import EntryTemplates.CommandLine.Words
import EntryTemplates.Vocabulary

set_option relaxedAutoImplicit false
set_option autoImplicit false

namespace EntryTemplates.CommandLine

/-- What can be asked for. -/
inductive Command where
  /-- All templates, or those for a framework. -/
  | list (framework : Option String)
  /-- The content of a template. -/
  | display (framework style : Option String)
  /-- Whether the templates pass. -/
  | check
  /-- A template in a directory. -/
  | write (directory : String) (framework style fileName : Option String) (overwrite : Bool)
  /-- How the program is used. -/
  | help
  deriving DecidableEq, Repr

/-- The names of commands. -/
inductive CommandName where
  | list
  | display
  | check
  | write
  deriving DecidableEq, Repr

instance : Vocabulary CommandName where
  all := [.list, .display, .check, .write]
  name
    | .list => "list"
    | .display => "show"
    | .check => "check"
    | .write => "write"
  title := "command"

namespace CommandName

/-- The options of a command. -/
def parameters : CommandName → List Parameter
  | .list => [.framework, .help]
  | .display => [.help]
  | .check => [.help]
  | .write => [.framework, .style, .fileName, .force, .help]

/-- The command that options and operands mean. -/
def ofGiven (name : CommandName) (g : Given) : Except Misuse Command :=
  if g.has .help then .ok .help
  else
    match name, g.operands with
    | .list, [] => .ok (.list (g.value? .framework))
    | .display, [] => .ok (.display none none)
    | .display, [framework] => .ok (.display (some framework) none)
    | .display, [framework, style] => .ok (.display (some framework) (some style))
    | .check, [] => .ok .check
    | .write, [directory] =>
        .ok (.write directory (g.value? .framework) (g.value? .style) (g.value? .fileName)
          (g.has .force))
    | .write, [] => .error (.missingOperand "DEST")
    | _, words => .error (.extraOperand (words.getLast?.getD ""))

/-- **The command that words after a name mean.** -/
def read (name : CommandName) (words : List String) : Except Misuse Command := do
  name.ofGiven (← Given.read name.parameters true words)

end CommandName

/-- The options before the command. -/
def generalParameters : List Parameter := [.directory, .verbose, .version, .help]

/-- The option among those given that is obeyed before all others. -/
def urgent? (g : Given) : Option Parameter :=
  (g.options.find? fun option => option.1 = .version || option.1 = .help).map Prod.fst

/-- How the program is used. -/
def helpText : String :=
  "Usage: cpp-test-mains [OPTIONS] COMMAND [ARGS]...

Options:
  -d, --templates-dir DIRECTORY  自定义模板目录 (默认读取配置)
  --verbose                      输出调试日志
  -v, --version
  --help

Commands:
  list [-f FRAMEWORK]            列出已注册的模板.
  show [FRAMEWORK] [STYLE]       输出模板原文.
  check                          校验所有模板.
  write DEST [-f FRAMEWORK] [-s STYLE] [-o FILE_NAME] [--force]
                                 将模板写入目标目录.
"

end EntryTemplates.CommandLine
