import PodSecurity.Field
import PodSecurity.Core
import PodSecurity.Policy.Paths
import PodSecurity.Policy.Check
import PodSecurity.Policy.Violations
import PodSecurity.Policy.Visitor
import PodSecurity.Policy.HostPorts
import PodSecurity.Policy.Privileged
import PodSecurity.Policy.ProcMount
import PodSecurity.Policy.SELinuxOptions
import PodSecurity.Policy.AppArmorProfile
import PodSecurity.Policy.Framework
import PodSecurity.Policy.Registry
import PodSecurity.Policy.FieldRef
import PodSecurity.Policy.ErrorFields
