import Scaffold.Migration.Order
import Scaffold.Text.Basic

/-!
Settings of a project that are no part of its backend, and what the environment changes in them.
-/
namespace Scaffold
open Text

structure Config where
  packageName : String := "generated-backend"
  packageVersion : String := "1.0.0"
  order : Migration.Order := .declared
  deriving DecidableEq, Repr

abbrev Environment := String → Option String

namespace Config

def packageNameVariable : String := "STACKFORGE_PACKAGE_NAME"
def orderVariable : String := "STACKFORGE_MIGRATION_ORDER"

def packageNameOf (environment : Environment) : Option String :=
  ((environment packageNameVariable).filter (!isBlankText ·)).map trim

def orderOf (environment : Environment) : Option Migration.Order :=
  (environment orderVariable).bind Migration.Order.ofName?

def strayOrder (environment : Environment) : Option String :=
  (environment orderVariable).filter fun raw => (Migration.Order.ofName? raw).isNone

def withEnvironment (config : Config) (environment : Environment) : Config :=
  { config with
    packageName := (packageNameOf environment).getD config.packageName
    order := (orderOf environment).getD config.order }

def withOptions (config : Config) (order : Option Migration.Order) (packageName : Option String) :
    Config :=
  { config with
    order := order.getD config.order
    packageName := packageName.getD config.packageName }

end Config
end Scaffold
