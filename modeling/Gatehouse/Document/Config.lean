import Gatehouse.Document.Reading
import Gatehouse.Document.Event
import Gatehouse.Config.Layer

/-!
# Configurations as documents

The document form of accounts, configurations and layers. A setting that is not written has its
default in a configuration and is absent from a layer.
-/

namespace Gatehouse

open Document

namespace Account

def toValue (a : Account) : Value :=
  .record [("roles", .texts a.roles.toList), ("permissions", .texts a.permissions)]

def ofValue? (d : Dialect) (v : Value) : Option Account := do
  let m ← v.members? d 2
  let roles ← m.optional [] (Value.listOf? Value.text?) 0 "roles"
  let permissions ← m.optional [] (Value.listOf? Value.text?) 1 "permissions"
  return .ofLists roles permissions

end Account

namespace Config

namespace Authz

def toValue (settings : Authz) : Value :=
  .record [("default_operator", settings.defaultOperator.toValue),
    ("log_results", .bool settings.logResults)]

def ofValue? (d : Dialect) (v : Value) : Option Authz := do
  let m ← v.members? d 2
  let defaults : Authz := {}
  let defaultOperator ←
    m.optional defaults.defaultOperator (Operator.ofValue? d) 0 "default_operator"
  let logResults ← m.optional defaults.logResults Value.bool? 1 "log_results"
  return { defaultOperator, logResults }

end Authz

namespace Logging

def toValue (settings : Logging) : Value :=
  .record [("level", .text settings.level), ("ansi", .bool settings.ansi)]

def ofValue? (d : Dialect) (v : Value) : Option Logging := do
  let m ← v.members? d 2
  let defaults : Logging := {}
  let level ← m.optional defaults.level Value.text? 0 "level"
  let ansi ← m.optional defaults.ansi Value.bool? 1 "ansi"
  return { level, ansi }

end Logging

namespace Realm

def toValue (realm : Realm) : Value :=
  .record [("name", .text realm.name),
    ("accounts", .record (realm.accounts.toList.map fun entry => (entry.1, entry.2.toValue)))]

def ofValue? (d : Dialect) (v : Value) : Option Realm := do
  let m ← v.members? d 2
  let name ← m.required Value.text? 0 "name"
  let accounts ← m.optional [] (Value.recordOf? (Account.ofValue? d)) 1 "accounts"
  return { name, accounts := .ofList accounts }

end Realm

def toValue (config : Config) : Value :=
  .record [("authz", config.authz.toValue), ("logging", config.logging.toValue),
    ("realms", .list (config.realms.map Realm.toValue))]

def ofValue? (d : Dialect) (v : Value) : Option Config := do
  let m ← v.members? d 3
  let authz ← m.optional {} (Authz.ofValue? d) 0 "authz"
  let logging ← m.optional {} (Logging.ofValue? d) 1 "logging"
  let realms ← m.optional [] (Value.listOf? (Realm.ofValue? d)) 2 "realms"
  return { authz, logging, realms }

namespace Layer

def Authz.ofValue? (d : Dialect) (v : Value) : Option Layer.Authz := do
  let m ← v.members? d 2
  let defaultOperator? ←
    m.optional none (fun v => (Operator.ofValue? d v).map some) 0 "default_operator"
  let logResults? ← m.optional none (fun v => v.bool?.map some) 1 "log_results"
  return { defaultOperator?, logResults? }

def Logging.ofValue? (d : Dialect) (v : Value) : Option Layer.Logging := do
  let m ← v.members? d 2
  let level? ← m.optional none (fun v => v.text?.map some) 0 "level"
  let ansi? ← m.optional none (fun v => v.bool?.map some) 1 "ansi"
  return { level?, ansi? }

def ofValue? (d : Dialect) (v : Value) : Option Layer := do
  let m ← v.members? d 3
  let authz ← m.optional {} (Authz.ofValue? d) 0 "authz"
  let logging ← m.optional {} (Logging.ofValue? d) 1 "logging"
  let realms ← m.optional [] (Value.listOf? (Realm.ofValue? d)) 2 "realms"
  return { authz, logging, realms }

end Layer

end Config

end Gatehouse
