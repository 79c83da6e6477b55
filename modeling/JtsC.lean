import JtsC.Runtime.JavaString
import JtsC.Runtime.Printf
import JtsC.Runtime.Run
import JtsC.Runtime.StringToChar
import JtsC.Geometry.Model
import JtsC.Geometry.Engine
import JtsC.Api.Exports
import JtsC.Api.Boundary
import JtsC.Api.Accessors
import JtsC.Api.TypeId
import JtsC.Api.Strings
import JtsC.Api.Wkb
import JtsC.Api.Calls
import JtsC.Lifecycle
import JtsC.Session
import JtsC.Tester.Callbacks
import JtsC.Tester.Main
