/-!
# Commands and their switches

The program has a level of its own with switches for all commands, and three commands.
-/

namespace PageCheck.Cli

inductive Key where
  | version
  | help
  | config
  | logLevel
  | logFile
  | logFormat
  | spec
  | json
  | html
  | template
  | pretty
  | runTimeout
deriving DecidableEq, Repr

inductive Kind where
  /-- No value: the switch is given or not. -/
  | flag
  | file (mustExist : Bool)
  /-- A folder that exists. -/
  | folder
  | number
  | choice (among : List String)
  | text
deriving DecidableEq, Repr

structure Switch where
  key : Key
  names : List String
  kind : Kind
deriving DecidableEq, Repr

namespace Switch

def isFlag (s : Switch) : Bool := s.kind == .flag

/-- Switches that come before all others and end the command. -/
def isUrgent (s : Switch) : Bool := s.key == .version || s.key == .help

def helpSwitch : Switch := ⟨.help, ["--help"], .flag⟩

def specSwitch : Switch := ⟨.spec, ["--spec", "-s"], .file true⟩

end Switch

inductive Command where
  | top
  | check
  | validate
  | config
deriving DecidableEq, Repr

namespace Command

def all : List Command := [check, config, validate]

def name : Command → String
  | top => "cli"
  | check => "check"
  | validate => "validate"
  | config => "config"

def ofName? (name : String) : Option Command := all.find? fun c => c.name == name

def title : Command → String
  | top => "cli"
  | command => "cli " ++ command.name

def levels : List String := ["DEBUG", "INFO", "WARNING", "ERROR", "CRITICAL"]

def switches : Command → List Switch
  | top =>
    [⟨.version, ["--version", "-v"], .flag⟩, ⟨.config, ["--config", "-c"], .file true⟩,
      ⟨.logLevel, ["--log-level"], .choice levels⟩, ⟨.logFile, ["--log-file"], .file false⟩,
      ⟨.logFormat, ["--log-format"], .text⟩, .helpSwitch]
  | check =>
    [.specSwitch, ⟨.json, ["--json", "-j"], .file false⟩, ⟨.html, ["--html"], .file false⟩,
      ⟨.template, ["--template", "-t"], .folder⟩, ⟨.pretty, ["--pretty"], .flag⟩,
      ⟨.runTimeout, ["--run-timeout"], .number⟩, .helpSwitch]
  | validate => [.specSwitch, .helpSwitch]
  | config => [.helpSwitch]

def usage : Command → String
  | top => "Usage: cli [OPTIONS] COMMAND [ARGS]..."
  | command => "Usage: " ++ command.title ++ " [OPTIONS]"

def about : Command → List String
  | top =>
    ["  Группа команд SiteCheck CLI.",
      "",
      "Options:",
      "  -v, --version                   Show the version and exit.",
      "  -c, --config FILE               Путь к файлу конфигурации YAML/JSON.",
      "  --log-level [DEBUG|INFO|WARNING|ERROR|CRITICAL]",
      "                                  Уровень логирования  [default: INFO]",
      "  --log-file FILE                 Путь к файлу логов (stdout, если не указан)",
      "  --log-format TEXT               Строка формата для логов  [default:",
      "                                  %(asctime)s | %(levelname)-8s | %(name)s |",
      "                                  %(message)s]",
      "  --help                          Show this message and exit.",
      "",
      "Commands:",
      "  check     Проверить все строки файла спецификаций.",
      "  config    Показать текущую конфигурацию в JSON.",
      "  validate  Разобрать файл спецификаций без загрузки страниц."]
  | check =>
    ["  Проверить все строки файла спецификаций.",
      "",
      "Options:",
      "  -s, --spec FILE           Файл спецификаций url|predicate (по умолчанию",
      "                            $SPECFILE или spec_file из конфига).",
      "  -j, --json FILE           Сохранить JSON-отчёт в файл",
      "  --html FILE               Сохранить HTML-отчёт в файл",
      "  -t, --template DIRECTORY  Папка с шаблоном report.html.j2 (встроенный, если не",
      "                            указана)",
      "  --pretty                  Преформатировать JSON-отчёт (отступ 2)",
      "  --run-timeout FLOAT       Таймаут всего запуска (секунд)",
      "  --help                    Show this message and exit."]
  | validate =>
    ["  Разобрать файл спецификаций без загрузки страниц.",
      "",
      "Options:",
      "  -s, --spec FILE  Файл спецификаций url|predicate (по умолчанию $SPECFILE или",
      "                   spec_file из конфига).",
      "  --help           Show this message and exit."]
  | config =>
    ["  Показать текущую конфигурацию в JSON.",
      "",
      "Options:",
      "  --help  Show this message and exit."]

def help (command : Command) : String :=
  "\n".intercalate (command.usage :: "" :: command.about) ++ "\n"

end Command

def versionText : String := "SiteCheck, version 0.1.0\n"

end PageCheck.Cli
