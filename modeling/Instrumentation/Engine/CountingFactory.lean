import Instrumentation.Engine.Basic

namespace Instrumentation

/-- A factory that hands out one engine to every plugin, or always fails, and
notes the plugins it was asked for. -/
structure CountingFactory where
  product : Except String Engine
  plugins : List PluginId := []

namespace CountingFactory

def isFailing (factory : CountingFactory) : Bool :=
  match factory.product with
  | .error _ => true
  | .ok _ => false

def count (factory : CountingFactory) : Nat :=
  factory.plugins.length

def create (factory : CountingFactory) (plugin : PluginId) :
    Except Error Engine × CountingFactory :=
  (factory.product.mapError (Error.new .internal),
    { factory with plugins := factory.plugins ++ [plugin] })

end CountingFactory

end Instrumentation
