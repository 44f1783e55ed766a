import ChangeDesk.Diff
import ChangeDesk.Screen.Line
import ChangeDesk.Text.Basic

/-!
The colours of file contents and of diffs. The file types that have a syntax theme are known by the extension
of a file's name, in which upper and lower case ASCII letters are the same, or by the name of the syntax
itself.
-/

namespace ChangeDesk.Highlight

/-- The extensions, and whole file names, that have a syntax. -/
def knownExtensions : List String := [
  ".bash_aliases", ".bash_completions", ".bash_functions", ".bash_login", ".bash_logout",
  ".bash_profile", ".bash_variables", ".bashrc", ".profile", ".textmate_init", "Appfile",
  "Appraisals", "Berksfile", "Brewfile", "C", "Cheffile", "DOT", "Deliverfile", "Emakefile",
  "Fastfile", "GNUmakefile", "Gemfile", "Guardfile", "M", "Makefile", "OCamlMakefile", "PL", "R",
  "Rakefile", "Rantfile", "Rprofile", "S", "SConscript", "SConstruct", "Scanfile", "Sconstruct",
  "Snakefile", "Snapfile", "Thorfile", "Vagrantfile", "adp", "applescript", "as", "asa", "asp",
  "bash", "bat", "bib", "bsh", "build", "builder", "c", "c++", "capfile", "cc", "cgi", "cl",
  "clisp", "clj", "cls", "cmd", "config.ru", "cp", "cpp", "cpy", "cs", "css", "css.erb",
  "css.liquid", "csx", "cxx", "d", "ddl", "di", "diff", "dml", "dot", "dpr", "dtml", "el",
  "emakefile", "erb", "erbsql", "erl", "fasl", "fcgi", "fish", "gemspec", "go", "gradle", "groovy",
  "gv", "gvy", "gyp", "gypi", "h", "h++", "haml", "hh", "hpp", "hrl", "hs", "htc", "htm", "html",
  "html.erb", "hxx", "inc", "inl", "ipp", "irbrc", "java", "jbuilder", "js", "js.erb", "json",
  "jsp", "l", "lhs", "lisp", "lsp", "ltx", "lua", "m", "mak", "make", "makefile", "markdn",
  "markdown", "matlab", "md", "mdown", "mk", "ml", "mli", "mll", "mly", "mm", "mud", "opml", "p",
  "pas", "patch", "php", "php3", "php4", "php5", "php7", "phps", "phpt", "phtml", "pl", "pm", "pod",
  "podspec", "prawn", "properties", "pxd", "pxd.in", "pxi", "pxi.in", "py", "py3", "pyi", "pyw",
  "pyx", "pyx.in", "r", "rabl", "rails", "rake", "rb", "rbx", "rd", "re", "rest", "rhtml", "rjs",
  "rpy", "rs", "rss", "rst", "ruby.rail", "rxml", "s", "sass", "sbt", "scala", "scm", "sconstruct",
  "script editor", "sh", "shtml", "simplecov", "sql", "sql.erb", "ss", "sty", "sublime-build",
  "sublime-color-scheme", "sublime-commands", "sublime-completions", "sublime-keymap",
  "sublime-macro", "sublime-menu", "sublime-mousemap", "sublime-project", "sublime-settings",
  "sublime-syntax", "sublime-theme", "svg", "t", "tcl", "tex", "textile", "thor", "tld", "tmpl",
  "tpl", "txt", "wscript", "xhtml", "xml", "xsd", "xslt", "yaml", "yaws", "yml", "zsh"]

def knownNames : List String := [
  "ASP", "ActionScript", "AppleScript", "Batch File", "BibTeX", "Bourne Again Shell (bash)", "C",
  "C#", "C++", "CSS", "Cargo Build Results", "Clojure", "D", "Diff", "Erlang", "Go",
  "Graphviz (DOT)", "Groovy", "HTML", "HTML (ASP)", "HTML (Erlang)", "HTML (Rails)", "HTML (Tcl)",
  "Haskell", "JSON", "Java", "Java Properties", "Java Server Page (JSP)", "JavaDoc", "JavaScript",
  "JavaScript (Rails)", "LaTeX", "LaTeX Log", "Lisp", "Literate Haskell", "Lua", "MATLAB",
  "Make Output", "Makefile", "Markdown", "MultiMarkdown", "NAnt Build File", "OCaml", "OCamllex",
  "OCamlyacc", "Objective-C", "Objective-C++", "PHP", "PHP Source", "Pascal", "Perl", "Plain Text",
  "Python", "R", "R Console", "Rd (R Documentation)", "Regular Expression",
  "Regular Expressions (Javascript)", "Regular Expressions (Python)", "Ruby", "Ruby Haml",
  "Ruby on Rails", "Rust", "SQL", "SQL (Rails)", "Scala", "Shell-Unix-Generic", "Tcl", "TeX",
  "Textile", "XML", "YAML", "camlp4", "commands-builtin-shell-bash", "reStructuredText"]

/-- A text with its upper case ASCII letters in lower case. -/
def foldCase (s : String) : String := String.ofList (s.toList.map Char.toLower)

def isKnown (fileType : String) : Bool :=
  knownExtensions.any (fun e => foldCase e == foldCase fileType) || knownNames.contains fileType

/-!
## Colours

The colours of file contents and of diffs. A marker in the colour of its kind stands before each line of a
diff. The text behind it has the colours of the syntax theme, or the colour of the line where the file type is
unknown or the line is too long.
-/

open Screen

/-- The most bytes a line with a syntax may have. -/
def longestLine : Nat := 10000

def lineColour (l : DiffLine) : Colour :=
  if l.isAdded then .green else if l.isRemoved then .red else .plain

/-- One line of text. Line feeds at its end are not shown in a syntax. -/
def spans (fileType : String) (fallback : Colour) (text : String) : Line :=
  if text.isEmpty then [⟨"", .unset⟩]
  else if text.utf8ByteSize ≤ longestLine ∧ isKnown fileType then
    let shown := Text.trimEnd (· = '\n') text
    if shown.isEmpty then [] else [⟨shown, .ofColour .theme⟩]
  else [⟨text, .ofColour fallback⟩]

def fileLine (fileType text : String) : Line := spans fileType .plain text

def diffLine (fileType : String) (l : DiffLine) : Line :=
  ⟨String.singleton l.marker, .ofColour (lineColour l)⟩ :: spans fileType (lineColour l) l.text

end ChangeDesk.Highlight
