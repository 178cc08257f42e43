import LineCensus.SortOrder

/-!
# `Locale` — the labels of the tables

## Contents

* `Labels`, `Locale` — a set of labels, and the locales that have one;
* `Locale.ofId?` — the locale of an identifier such as `zh-cn`, `zh_CN.UTF-8` or `en_US`;
* `Locale.resolve` — the requested locale, else that of the environment, else English.
-/

namespace LineCensus

/-- The labels of one locale. -/
structure Labels where
  name : String
  statistic : String
  noneProject : String
  path : String
  sum : String
  language : String
  files : String
  lines : String
  code : String
  comment : String
  blank : String
  avg : String
  max : String
  min : String
deriving DecidableEq, Repr

/-- The locales with labels. -/
inductive Locale where
  | en
  | zhCn
deriving DecidableEq, Repr

namespace Locale

/-- All locales, in the order in which they are tried. -/
def all : List Locale := [.en, .zhCn]

/-- The identifier of the locale. -/
def id : Locale → String
  | .en => "en"
  | .zhCn => "zh-cn"

/-- The labels of the locale. -/
def labels : Locale → Labels
  | .en =>
    { name := "English", statistic := "statistic", noneProject := "no files to count",
      path := "path", sum := "sum", language := "type", files := "files", lines := "lines",
      code := "code", comment := "comment", blank := "blank", avg := "avg", max := "max",
      min := "min" }
  | .zhCn =>
    { name := "中文简体", statistic := "项目统计", noneProject := "没有可统计的文件",
      path := "路径", sum := "总计", language := "类型", files := "文件", lines := "行数",
      code := "代码", comment := "注释", blank := "空行", avg := "平均行数", max := "最大行数",
      min := "最小行数" }

/-- The part of a text before the first separator. -/
def firstPart (sep : Char) (s : List Char) : List Char := s.takeWhile (· != sep)

/-- An identifier without its codeset, with hyphens and in ASCII lower case. -/
def normalize (id : List Char) : List Char :=
  Text.lowerAscii ((Text.trim (firstPart '.' id)).map fun c => if c = '_' then '-' else c)

/-- The locale of an identifier: one of exactly this identifier, else one of its language. -/
def ofId? (id : List Char) : Option Locale :=
  let normalized := normalize id
  (all.find? fun l => l.id.toList == normalized).orElse fun _ =>
    all.find? fun l => firstPart '-' l.id.toList == firstPart '-' normalized

/-- The locale to use. A requested locale without labels is English, whatever the environment. -/
def resolve (requested environment : Option (List Char)) : Locale :=
  match requested with
  | some id => (ofId? id).getD .en
  | none => (environment.bind ofId?).getD .en

end Locale

end LineCensus
