/-
**What can be wrong with settings.**

Main definitions:

* `EntryTemplates.Settings.Field` — the settings;
* `EntryTemplates.Settings.Refusal` — why a value is refused;
* `EntryTemplates.Settings.Problem` — a setting and why its value is refused.
-/

import EntryTemplates.Framework

set_option relaxedAutoImplicit false
set_option autoImplicit false

namespace EntryTemplates.Settings

/-- The settings. -/
inductive Field where
  | framework
  | style
  | directory
  | fileName
  | logLevel
  | logFile
  deriving DecidableEq, Repr

namespace Field

/-- The settings in their fixed order. -/
def all : List Field := [.framework, .style, .directory, .fileName, .logLevel, .logFile]

/-- The name of a setting. -/
def name : Field → String
  | .framework => "default_test_framework"
  | .style => "default_main_style"
  | .directory => "custom_templates_dir"
  | .fileName => "test_main_file_name"
  | .logLevel => "log_level"
  | .logFile => "log_file"

end Field

/-- Why a value is refused. -/
inductive Refusal where
  /-- It is no text. -/
  | notText
  /-- It is made of bytes that are no text. -/
  | notUnicode
  | unknownFramework (value : String)
  | unknownStyle (value : String)
  | emptyFileName
  /-- A file name with a slash or a backslash. -/
  | separator (value : String)
  /-- A file name without the ending of a source file. -/
  | notSource (value : String)
  | unknownLevel (value : String)
  deriving DecidableEq, Repr

namespace Refusal

/-- The names of a vocabulary in one line. -/
def choices (α : Type) [Vocabulary α] : String :=
  ", ".intercalate ((Vocabulary.all : List α).map Vocabulary.name)

/-- A refusal in words. -/
def words : Refusal → String
  | .notText => "Input should be a valid string"
  | .notUnicode =>
      "Input should be a valid string, unable to parse raw data as a unicode string"
  | .unknownFramework value => "未知的测试框架: " ++ value ++ " (可选: " ++ choices Framework ++ ")"
  | .unknownStyle value => "未知的入口样式: " ++ value ++ " (可选: " ++ choices Style ++ ")"
  | .emptyFileName => "测试入口文件名不能为空"
  | .separator value => "测试入口文件名不能包含路径分隔符: " ++ value
  | .notSource value => "测试入口文件必须是 C++ 源文件: " ++ value
  | .unknownLevel value => "无效的日志级别: " ++ value

/-- The kind of a refusal. -/
def kind : Refusal → String
  | .notText => "string_type"
  | .notUnicode => "string_unicode"
  | _ => "value_error"

/-- Whether a value was refused before it could be read as a text. -/
def isAboutType (r : Refusal) : Bool := r = .notText ∨ r = .notUnicode

/-- The report on a refusal. -/
def message (r : Refusal) : String := if r.isAboutType then r.words else "Value error, " ++ r.words

end Refusal

/-- A setting and why its value is refused. -/
structure Problem where
  field : Field
  refusal : Refusal
  deriving DecidableEq, Repr

end EntryTemplates.Settings
