import Gatehouse.Document.Config
import Gatehouse.Toml.Line

/-!
# Configurations in TOML

The file form of configurations and layers. A configuration is written in full, its realms as rows of
a list of tables and each account as a table below its realm.
-/

namespace Gatehouse.Config

open Document Toml

def Realm.accountLines (realm : Realm) : List Line :=
  if realm.accounts.isEmpty then [.table ["realms", "accounts"]]
  else realm.accounts.toList.flatMap fun (id, account) =>
    [.table ["realms", "accounts", id],
      .setting "roles" (.texts account.roles.toList),
      .setting "permissions" (.texts account.permissions)]

def Realm.lines (realm : Realm) : List Line :=
  [.row ["realms"], .setting "name" (.text realm.name)] ++ realm.accountLines

/-- The lines of a configuration; the empty list of realms is a setting of the outermost table, which
stands before every header. -/
def lines (config : Config) : List Line :=
  (if config.realms.isEmpty then [.setting "realms" (.texts [])] else []) ++
    [.table ["authz"],
      .setting "default_operator" (.text config.authz.defaultOperator.name),
      .setting "log_results" (.flag config.authz.logResults),
      .table ["logging"],
      .setting "level" (.text config.logging.level),
      .setting "ansi" (.flag config.logging.ansi)] ++
    config.realms.flatMap Realm.lines

def toToml (config : Config) : String := writeLines config.lines

def ofToml? (text : String) : Option Config := Toml.parse? text >>= ofValue? .toml

def Layer.ofToml? (text : String) : Option Layer := Toml.parse? text >>= Layer.ofValue? .toml

end Gatehouse.Config
