import AddressBook.Schema.Value
import AddressBook.Text.Case

/-!
The settings of the service, read from environment variables. The names of the
variables are compared without regard to letter case.
-/
namespace AddressBook

/-- The settings of the service. -/
structure Settings where
  serviceName : Text := Text.ofString "contact-vault"
  databaseUrl : Text := Text.ofString "postgresql+asyncpg://localhost:5432/contact_vault"
  databaseEcho : Bool := false
  poolSize : Int := 5
  createSchema : Bool := true
  logLevel : Text := Text.ofString "INFO"
  jsonLogs : Bool := true
  defaultPageSize : Int := 20
  maxPageSize : Int := 200
  importBatchSize : Int := 100
  settingsUserKey : Text := Text.ofString "default"

namespace Settings

open Schema

/-- The lead of the names of the variables, in lower case. -/
def lead : Text := Text.ofString "contact_vault_"

/-- The variables of the service without the lead of their names; of names that differ in letter
case only the last counts. -/
def ownVariables (env : List (Text × Text)) : Members :=
  env.foldl (fun found (name, value) =>
    let name := Text.lower name
    if lead.isPrefixOf name then Json.setMember (name.drop lead.length) (.text value) found
    else found) []

/-- The settings that an environment gives. -/
def ofEnvironment (env : List (Text × Text)) : Checked Settings :=
  let vars := ownVariables env
  let word (name : String) (default : Text) := defaulted name text default vars
  let flag (name : String) (default : Bool) := defaulted name boolean default vars
  let number (name : String) (default : Int) := defaulted name integer default vars
  let d : Settings := {}
  Checked.on (Checked.on (Checked.on (Checked.on (Checked.on (Checked.on (Checked.on (Checked.on
    (Checked.on (Checked.on (Checked.on (.ok Settings.mk)
    (word "service_name" d.serviceName)) (word "database_url" d.databaseUrl))
    (flag "database_echo" d.databaseEcho)) (number "pool_size" d.poolSize))
    (flag "create_schema_on_startup" d.createSchema)) (word "log_level" d.logLevel))
    (flag "json_logs" d.jsonLogs)) (number "default_page_size" d.defaultPageSize))
    (number "max_page_size" d.maxPageSize)) (number "import_batch_size" d.importBatchSize))
    (word "settings_user_key" d.settingsUserKey)

end Settings
end AddressBook
